namespace RunLog

/-- Why lines could not be fetched. -/
inductive RetrievalError where
  | unreachable (reason : String)
  | query (status : Nat) (body : String)
  | authentication (reason : String)
  | malformed (reason : String)
  | closed
deriving DecidableEq, Inhabited

namespace RetrievalError

def message : RetrievalError → String
  | unreachable reason => "log backend unreachable: " ++ reason
  | query status body => "log backend query failed with status " ++ toString status ++ ": " ++ body
  | authentication reason => "log backend authentication misconfigured: " ++ reason
  | malformed reason => "malformed log backend response: " ++ reason
  | closed => "log stream already closed"

/-- Only a setup error asks for other settings instead of another attempt. -/
def isSetupError : RetrievalError → Bool
  | authentication _ => true
  | _ => false

end RetrievalError

/-- The kind of a failed read or write. -/
inductive TransferKind where
  | connectionAborted
  | permissionDenied
  | invalidData
  | invalidInput
  | invalidFilename
  | brokenPipe
  | writeZero
  | storageFull
  | other
deriving DecidableEq, Inhabited, Repr

/-- A failed read or write: either a retrieval error that came along, or a cause of its own. -/
inductive TransferError where
  | retrieval (error : RetrievalError)
  | failure (kind : TransferKind) (reason : String)
deriving DecidableEq, Inhabited

namespace TransferError

def kind : TransferError → TransferKind
  | retrieval (.unreachable _) => .connectionAborted
  | retrieval (.authentication _) => .permissionDenied
  | retrieval (.malformed _) => .invalidData
  | retrieval .closed => .brokenPipe
  | retrieval (.query _ _) => .other
  | failure kind _ => kind

def message : TransferError → String
  | retrieval error => error.message
  | failure _ reason => reason

/-- The retrieval error that came along, if there is one. -/
def retrieval? : TransferError → Option RetrievalError
  | retrieval error => some error
  | failure _ _ => none

end TransferError

end RunLog
