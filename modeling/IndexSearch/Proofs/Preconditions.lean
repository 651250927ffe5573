import IndexSearch.Program
import IndexSearch.Proofs.Console.Transcript
import IndexSearch.Proofs.Http.Slices
import IndexSearch.Proofs.Shard.Loading
import IndexSearch.Proofs.Steps
import IndexSearch.Service.WorkerPool

/-!
# Preconditions

An engine has to have a shard, a worker pool a worker and a search a term, and a text may be cut
only between its characters. Where one of these is relied on, breaking it is fatal. Each is seen to
somewhere else: by the command line, by the settings that are made from it, by those who ask for a
search, and by how a colon is written. Nothing from outside can break it.
-/

namespace IndexSearch

/-- Whatever the files at some paths, opening an engine over them breaks no precondition, and the
engine has an answer to all terms. -/
def Engine.Openable (paths : List Text) : Prop :=
  ∀ files, (∀ cause, load files paths ≠ .error (.breach cause)) ∧
    ∀ engine, load files paths = .ok engine →
      ∀ terms, terms ≠ [] → ∃ hits, engine.search terms = .ok hits

theorem Engine.neverFails_of_load {files : FileSystem} {paths : List Text} {engine : Engine}
    (loaded : load files paths = .ok engine) : ∀ reader ∈ engine.readers, reader.NeverFails := by
  have hpaths : paths ≠ [] := by
    rintro rfl
    cases loaded
  rcases load_cases files hpaths with ⟨fault, hfault⟩ | ⟨other, shards, hother, hreaders⟩
  · rw [hfault] at loaded
    cases loaded
  · obtain rfl : other = engine := Except.ok.inj (hother.symm.trans loaded)
    intro reader hreader
    rw [hreaders] at hreader
    obtain ⟨shard, _, rfl⟩ := List.mem_map.mp hreader
    exact Reader.neverFails_ofShard shard

theorem Engine.openable_of_ne_nil {paths : List Text} (nonempty : paths ≠ []) :
    Openable paths := by
  intro files
  constructor
  · intro cause hbreach
    rcases load_cases files nonempty with ⟨fault, hfault⟩ | ⟨engine, shards, hengine, _⟩
    · rw [hfault] at hbreach
      cases hbreach
    · rw [hengine] at hbreach
      cases hbreach
  · intro engine loaded terms hterms
    exact exists_search (neverFails_of_load loaded) hterms

/-- What is made of a search does not depend on what it does without terms. -/
def Search.AskedForTerms {α : Type} (use : Search → α) : Prop :=
  ∀ search other : Search, (∀ terms, terms ≠ [] → search terms = other terms) →
    use search = use other

namespace Console

theorem respondBy_askedForTerms (line : Bytes) : Search.AskedForTerms (respondBy line) := by
  intro search other same
  unfold respondBy
  cases Utf8.decode? line with
  | none => rfl
  | some text =>
    by_cases hterms : searchWords text = []
    · simp [hterms]
    · simp only [same _ hterms]

/-- A session over readers that never fail breaks no precondition. -/
theorem outcome_ne_breach {engine : Engine}
    (steady : ∀ reader ∈ engine.readers, reader.NeverFails) (input : Bytes) (room : Option Nat)
    (cause : Breach) : (run engine input room).outcome ≠ .error (.breach cause) := by
  -- The transcript ends well or at a malformed line, and else there can only be too little room.
  obtain ⟨output, outcome, transcribes⟩ := exists_transcribes steady (lines input)
  have houtcome : outcome ≠ .error (.breach cause) := by
    rcases transcribes.outcome_cases with rfl | rfl <;> simp
  cases room with
  | none =>
    rw [run_unlimited transcribes]
    exact houtcome
  | some room =>
    rw [run_limited transcribes]
    dsimp only
    split
    · exact houtcome
    · simp

end Console

namespace Site

theorem hitsBy_askedForTerms (text : Text) : Search.AskedForTerms (hitsBy text) := by
  intro search other same
  unfold hitsBy
  by_cases hterms : (shownTerms text).words = []
  · simp [hterms]
  · simp only [same _ hterms]

theorem answerBy_askedForTerms (site : Site) (request : Request) :
    Search.AskedForTerms (site.answerBy request) := by
  intro search other same
  have hhits (text : Text) : hitsBy text search = hitsBy text other :=
    hitsBy_askedForTerms text search other same
  simp only [answerBy, hhits]

end Site

/-- Some shards are named, there is some worker, and the static root is a directory. -/
structure Settings.Sound (settings : Settings) (files : FileSystem) : Prop where
  shards : settings.shards ≠ []
  workers : 1 ≤ settings.workers
  staticRoot : files.lookup settings.staticRoot = .ok .directory

theorem Settings.sound_of_ofArgs {files : FileSystem} {args : ServeArgs} {settings : Settings}
    (made : ofArgs files args = .ok settings) : settings.Sound files := by
  cases hroot : files.lookup args.staticDir with
  | error cause => simp [ofArgs, hroot] at made
  | ok node =>
    cases node with
    | file contents => simp [ofArgs, hroot] at made
    | link text => simp [ofArgs, hroot] at made
    | directory =>
      simp only [ofArgs, hroot] at made
      split at made
      · cases made
      · rename_i hworkers
        split at made
        · cases made
        · rename_i hshards
          cases made
          exact ⟨by simpa using hshards, Nat.one_le_iff_ne_zero.mpr hworkers, hroot⟩

theorem Command.indices_ne_nil {arguments indices : List Text}
    (accepted : parse arguments = .ok (.shell indices)) : indices ≠ [] := by
  cases arguments with
  | nil => cases accepted
  | cons first rest =>
    rw [parse] at accepted
    split at accepted
    · obtain ⟨draft, _, hfinish⟩ := exists_of_bind_eq_ok accepted
      obtain ⟨args, _, hserve⟩ := exists_of_bind_eq_ok hfinish
      cases hserve
    · split at accepted
      · obtain ⟨found, _, hfound⟩ := exists_of_bind_eq_ok accepted
        split at hfound
        · cases hfound
        · rename_i nonempty
          cases hfound
          simpa using nonempty
      · split at accepted <;> cases accepted

theorem Server.workers_of_bind [MediaType] {files : FileSystem} {network : Network} {settings : Settings}
    {engine : Engine} {server : Server}
    (bound : bind files network settings engine = .ok server) :
    server.workers = settings.workers := by
  unfold bind at bound
  split at bound
  · cases bound
  · split at bound
    · cases bound
    · cases bound
      rfl

theorem WorkerPool.exists_ofSize {τ : Type} {size : Nat} (staffed : 1 ≤ size) :
    ∃ pool : WorkerPool τ, ofSize size = .ok pool ∧ pool.size = size := by
  refine ⟨{ workers := List.replicate size .idle }, if_neg (by omega), ?_⟩
  rw [WorkerPool.size, List.length_replicate]

namespace Program

/-- What the user may be told when the program fails. No broken precondition is among it. -/
inductive Tells : Report → Prop where
  | settings (fault : SettingsFault) : Tells fault.report
  | shard (fault : ShardFault) : Tells (fault.report.within loadingContext)
  | server (fault : ServerFault) : Tells fault.report
  | badText : Tells ⟨ConsoleFault.badText.message, []⟩

theorem tells_of_loadEngine {files : FileSystem} {paths : List Text} {report : Report}
    (nonempty : paths ≠ []) (failed : loadEngine files paths = .error report) : Tells report := by
  obtain ⟨cause, hload, rfl⟩ := exists_of_mapError_eq_error failed
  cases cause with
  | shard fault => exact .shard fault
  | breach breach => exact absurd hload ((Engine.openable_of_ne_nil nonempty files).1 breach)

theorem tells_of_shell {files : FileSystem} {indices : List Text} {input output : Bytes}
    {report : Report} (nonempty : indices ≠ [])
    (failed : shell files indices input = .failed output report) : Tells report := by
  rw [shell] at failed
  cases hload : loadEngine files indices with
  | error cause =>
    rw [hload] at failed
    cases failed
    exact tells_of_loadEngine nonempty hload
  | ok engine =>
    have steady := Engine.neverFails_of_load (of_mapError_eq_ok hload)
    obtain ⟨text, outcome, transcribes⟩ :=
      Console.exists_transcribes steady (Console.lines input)
    simp only [hload, Console.run_unlimited transcribes] at failed
    rcases transcribes.outcome_cases with rfl | rfl
    · cases failed
    · cases failed
      exact .badText

theorem tells_of_serve [MediaType] {files : FileSystem} {network : Network} {args : ServeArgs}
    {report : Report} (failed : serve files network args = .error report) : Tells report := by
  rw [serve] at failed
  rcases of_bind_eq_error failed with hsettings | ⟨settings, hsettings, hrest⟩
  · obtain ⟨fault, _, rfl⟩ := exists_of_mapError_eq_error hsettings
    exact .settings fault
  · have sound := Settings.sound_of_ofArgs (of_mapError_eq_ok hsettings)
    rcases of_bind_eq_error hrest with hload | ⟨engine, _, hbind⟩
    · exact tells_of_loadEngine sound.shards hload
    · obtain ⟨fault, _, rfl⟩ := exists_of_mapError_eq_error hbind
      exact .server fault

theorem tells_of_run [MediaType] {files : FileSystem} {network : Network} {arguments : List Text}
    {input output : Bytes} {report : Report}
    (failed : run files network arguments input = .failed output report) : Tells report := by
  rw [run] at failed
  cases hparse : Command.parse arguments with
  | error fault => simp [hparse] at failed
  | ok command =>
    cases command with
    | shell indices =>
      rw [hparse] at failed
      exact tells_of_shell (Command.indices_ne_nil hparse) failed
    | serve args =>
      cases hserve : serve files network args with
      | error cause =>
        simp only [hparse, hserve] at failed
        cases failed
        exact tells_of_serve hserve
      | ok server => simp [hparse, hserve] at failed

/-- No command line breaks a precondition. One that searches names a file, so that opening its
engine breaks none and no line of the input does. The settings for serving are sound, so that
opening their engine breaks none and their workers make a pool. A run that fails tells of other
causes. Neither the console nor a page asks for a search without terms, and reading a head by
offsets never fails. -/
theorem preconditions_kept [MediaType] (arguments : List Text) :
    (∀ indices, Command.parse arguments = .ok (.shell indices) →
      Engine.Openable indices ∧
        ∀ files engine, Engine.load files indices = .ok engine →
          ∀ input room cause, (Console.run engine input room).outcome ≠ .error (.breach cause)) ∧
    (∀ files args settings, Settings.ofArgs files args = .ok settings →
      settings.Sound files ∧ Engine.Openable settings.shards ∧
        ∀ files network engine server, Server.bind files network settings engine = .ok server →
          ∃ pool : WorkerPool Stream, WorkerPool.ofSize server.workers = .ok pool ∧
            pool.size = settings.workers) ∧
    (∀ files network input output report,
      run files network arguments input = .failed output report → Tells report) ∧
    (∀ engine line, Console.respond engine line = Console.respondBy line engine.search ∧
      Search.AskedForTerms (Console.respondBy line)) ∧
    (∀ (site : Site) request, site.answer request = site.answerBy request site.engine.search ∧
      Search.AskedForTerms (site.answerBy request)) ∧
    ∀ head, Request.slice head = .ok (Request.parse head) := by
  refine ⟨?_, ?_, ?_, ?_, ?_, Request.slice_eq⟩
  · intro indices accepted
    refine ⟨Engine.openable_of_ne_nil (Command.indices_ne_nil accepted), ?_⟩
    intro files engine loaded
    exact Console.outcome_ne_breach (Engine.neverFails_of_load loaded)
  · intro files args settings made
    have sound := Settings.sound_of_ofArgs made
    refine ⟨sound, Engine.openable_of_ne_nil sound.shards, ?_⟩
    intro files network engine server bound
    rw [Server.workers_of_bind bound]
    exact WorkerPool.exists_ofSize sound.workers
  · intro files network input output report failed
    exact tells_of_run failed
  · intro engine line
    exact ⟨rfl, Console.respondBy_askedForTerms line⟩
  · intro site request
    exact ⟨rfl, site.answerBy_askedForTerms request⟩

def shellLine : List Text :=
  ["shell".toList, "two".toList]

/-- A command line that serves the working directory and names a file that is not there. -/
def serveLine : List Text :=
  ["serve".toList, "5555".toList, ".".toList, "gone".toList, "two".toList]

def served : ServeArgs where
  port := 5555
  staticDir := ".".toList
  indices := ["gone".toList, "two".toList]
  workers := Settings.defaultWorkers
  family := .unspecified
  crawlRoot := Settings.defaultCrawlRoot
  closePolicy := .dropFinal
  noReverseDns := false

def settled : Settings :=
  { Settings.ofShards ".".toList ["two".toList] with port := 5555 }

open FileSystem in
/-- Searching goes well on a line of nothing but an em space, and so does serving. Without any file
the first command line fails for another cause. -/
theorem preconditions_kept_lines :
    (Command.parse shellLine = .ok (.shell ["two".toList]) ∧
      ∃ engine, Engine.load twoFiles ["two".toList] = .ok engine ∧
        ∀ cause, (Console.run engine (Utf8.encode ['\u2003', '\n']) none).outcome ≠
          .error (.breach cause)) ∧
    (Command.parse serveLine = .ok (.serve served) ∧
      Settings.ofArgs twoFiles served = .ok settled ∧ settled.Sound twoFiles ∧
        ∃ engine server, Engine.load twoFiles settled.shards = .ok engine ∧
          Server.bind twoFiles {} settled engine = .ok server ∧
            ∃ pool : WorkerPool Stream, WorkerPool.ofSize server.workers = .ok pool ∧
              pool.size = 100) ∧
    ∃ report, run (.ofEntries [] []) {} shellLine [] = .failed [] report ∧ Tells report := by
  have hshell : Command.parse shellLine = .ok (.shell ["two".toList]) := by decide +kernel
  have hserve : Command.parse serveLine = .ok (.serve served) := by decide +kernel
  have hsettings : Settings.ofArgs twoFiles served = .ok settled := by cbv
  obtain ⟨shard, hshard, _⟩ : ∃ shard, Shard.load twoFiles "two".toList = .ok shard ∧
      shard.Agrees (.ofEntries .replaced) :=
    Shard.load_of_holdsTables ⟨.replaced, [], ⟨fun _ => rfl, fun _ => rfl⟩, by cbv, by cbv⟩
  have hengine : Engine.load twoFiles ["two".toList] =
      .ok ⟨[.ofShard shard], List.cons_ne_nil _ _⟩ := by
    rw [Engine.load_of_ne_nil (List.cons_ne_nil _ _), List.mapM_cons, hshard]
    rfl
  obtain ⟨server, hbind⟩ : ∃ server, Server.bind twoFiles {} settled
      ⟨[.ofShard shard], List.cons_ne_nil _ _⟩ = .ok server := by
    have hopen : StaticRoot.open? twoFiles settled.staticRoot = .ok ⟨twoFiles, []⟩ := by cbv
    exact ⟨_, by rw [Server.bind, hopen]; rfl⟩
  have hmissing : Engine.load (.ofEntries [] []) ["two".toList] =
      .error (.shard (.unreadable "two".toList (.path .notFound))) := by cbv
  have hfailed : run (.ofEntries [] []) {} shellLine [] = .failed []
      ((ShardFault.unreadable "two".toList (.path .notFound)).report.within loadingContext) := by
    rw [run, hshell]
    simp only [shell, loadEngine, hmissing, Except.mapError, EngineFault.report]
  obtain ⟨opened, sound, tells, _⟩ := preconditions_kept shellLine
  obtain ⟨hsound, _, hpool⟩ := sound twoFiles served settled hsettings
  refine ⟨⟨hshell, _, hengine, ?_⟩, ⟨hserve, hsettings, hsound, _, server, hengine, hbind, ?_⟩,
    _, hfailed, tells _ _ _ _ _ hfailed⟩
  · exact (opened _ hshell).2 twoFiles _ hengine _ none
  · exact hpool twoFiles {} _ server hbind

end Program

end IndexSearch
