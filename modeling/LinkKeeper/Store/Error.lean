/-!
What can go wrong when objects are read from the cluster or written to it.
-/

namespace LinkKeeper

/-- What the client of the cluster's API reports. -/
inductive ApiFault where
  /-- The server has refused the request, with a status code, a reason and an explanation. -/
  | refused (code : Nat) (reason explanation : String)
  /-- The reply is no object of the expected kind. -/
  | undecodable
  /-- There is no such request. -/
  | badRequest
  /-- There was no reply. -/
  | noReply
  deriving DecidableEq, Repr

/-- Why an object could not be read or written. -/
inductive StoreError where
  /-- The object to write is not there. -/
  | notFound (kind name : String)
  /-- The object has been written since it was read. -/
  | conflict (kind name : String)
  | api (fault : ApiFault)
  /-- The object to write has no name. -/
  | unnamed (kind : String)
  deriving DecidableEq, Repr

/-- How the error is told, where it is told in words of this program. -/
def StoreError.message? : StoreError → Option String
  | .notFound kind name => some (kind ++ " " ++ name ++ " not found")
  | .conflict kind name => some ("Conflicting update to " ++ kind ++ " " ++ name)
  | .api _ => none
  | .unnamed kind => some (kind ++ " has no name")

end LinkKeeper
