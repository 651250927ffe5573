import IndexSearch.Http.Connection
import IndexSearch.Site.Answer

/-!
# Serving a connection

Requests are answered in order until the client closes, a read or a write fails, or the client
asks to close; whether that last request still gets its answer is a matter of policy.
-/

namespace IndexSearch

/-- What becomes of a request that asks to close the connection. -/
inductive ClosePolicy where
  | dropFinal
  | respondThenClose
deriving DecidableEq, Repr

namespace Site

/-- One exchange: a request is read and answered. The flag says whether another may follow. -/
def exchange (site : Site) (policy : ClosePolicy) (connection : Connection) : Bool × Connection :=
  match connection.nextRequest with
  | (.error _, next) => (false, next)
  | (.ok request, next) =>
    if request.wantsClose && policy == .dropFinal then (false, next)
    else
      match next.respond (site.answer request) with
      | (.error _, last) => (false, last)
      | (.ok _, last) => (!request.wantsClose, last)

/-- An exchange that another may follow has consumed a request. -/
theorem rest_length_of_exchange {site : Site} {policy : ClosePolicy}
    {connection after : Connection} (h : site.exchange policy connection = (true, after)) :
    after.rest.length < connection.rest.length := by
  unfold exchange at h
  split at h
  · simp at h
  · rename_i request next hnext
    split at h
    · simp at h
    · split at h
      · simp at h
      · rename_i last hrespond
        simp only [Prod.mk.injEq] at h
        obtain ⟨_, rfl⟩ := h
        have hrest := Connection.rest_respond next (site.answer request)
        rw [hrespond] at hrest
        rw [hrest]
        exact Connection.rest_length_of_nextRequest hnext

def serve (site : Site) (policy : ClosePolicy) (connection : Connection) : Connection :=
  match _hexchange : site.exchange policy connection with
  | (false, after) => after
  | (true, after) => site.serve policy after
termination_by connection.rest.length
decreasing_by exact rest_length_of_exchange _hexchange

end Site

end IndexSearch
