import IndexSearch.Text.Basic

/-!
# Faults

The causes for which an operation fails, each with its wording.
-/

namespace IndexSearch

inductive StreamFault where
  | reset
  | interrupted
  | wouldBlock
  | timedOut
  | brokenPipe
  | aborted
  | unexpectedEnd
  | noProgress
deriving DecidableEq, Repr

def StreamFault.message : StreamFault → Text
  | .reset => "connection reset".toList
  | .interrupted => "operation interrupted".toList
  | .wouldBlock => "operation would block".toList
  | .timedOut => "timed out".toList
  | .brokenPipe => "broken pipe".toList
  | .aborted => "connection aborted".toList
  | .unexpectedEnd => "unexpected end of file".toList
  | .noProgress => "write zero".toList

inductive PathFault where
  | notFound
  | notADirectory
  | isADirectory
  | nameTooLong
  | tooManyLinks
  | nulInName
deriving DecidableEq, Repr

def PathFault.message : PathFault → Text
  | .notFound => "No such file or directory (os error 2)".toList
  | .notADirectory => "Not a directory (os error 20)".toList
  | .isADirectory => "Is a directory (os error 21)".toList
  | .nameTooLong => "File name too long (os error 36)".toList
  | .tooManyLinks => "Too many levels of symbolic links (os error 40)".toList
  | .nulInName => "file name contained an unexpected NUL byte".toList

inductive ReadFault where
  | path (fault : PathFault)
  | stream (fault : StreamFault)
deriving DecidableEq, Repr

def ReadFault.message : ReadFault → Text
  | .path fault => fault.message
  | .stream fault => fault.message

/-- A precondition that the caller broke, or a reader that gave up. -/
inductive Breach where
  | noShards
  | noTerms
  | noWorkers
  | reader (message : Text)
deriving DecidableEq, Repr

def Breach.message : Breach → Text
  | .noShards => "QueryEngine needs at least one shard".toList
  | .noTerms => "process_query called with no terms".toList
  | .noWorkers => "WorkerPool needs at least one worker".toList
  | .reader message => message

end IndexSearch
