import LinkKeeper.Metrics

/-!
The pages by which the keeper is watched: whether it is alive, whether it is ready, and its counts.

* `Readiness.isReady_iff`: the keeper is ready once both kinds of objects have been listed.
* `Probe.respond`: the page at a path.
-/

namespace LinkKeeper

/-- Which kinds of objects have been listed completely at least once. -/
structure Readiness where
  interfaces : Bool
  networks : Bool
  deriving DecidableEq, Repr

namespace Readiness

/-- Nothing has been listed yet. -/
def fresh : Readiness := ⟨false, false⟩

def markInterfaces (r : Readiness) : Readiness := { r with interfaces := true }

def markNetworks (r : Readiness) : Readiness := { r with networks := true }

/-- Whether the keeper has seen all that it works on. -/
def isReady (r : Readiness) : Bool := r.interfaces && r.networks

theorem isReady_iff {r : Readiness} : r.isReady = true ↔ r.interfaces = true ∧ r.networks = true := by
  simp [isReady]

end Readiness

/-- A page, or the refusal of one. -/
structure ProbeReply where
  status : Nat
  contentType : Option String
  body : List String
  deriving DecidableEq, Repr

namespace Probe

/-- The type of the pages that are plain text. -/
def plainText : String := "text/plain; charset=utf-8"

/-- The type of the page with the counts. -/
def countsText : String := "text/plain; version=0.0.4"

/-- The page at a path. -/
def page? (readiness : Readiness) (metrics : Metrics) : String → Option ProbeReply
  | "/healthz" => some ⟨200, plainText, ["ok"]⟩
  | "/readyz" =>
    some (if readiness.isReady then ⟨200, plainText, ["ready"]⟩
      else ⟨503, plainText, ["watchers not synced"]⟩)
  | "/metrics" => some ⟨200, countsText, metrics.lines⟩
  | _ => none

/-- Whether a character can stand in a scheme. -/
def isSchemeChar (c : Char) : Bool := c.isAlphanum || ['+', '-', '.'].contains c

/-- The path of a request target. It ends at the first question mark or hash, and begins after a
scheme and a host if these are given; a host alone has none. -/
def pathOf (target : String) : String :=
  let cs := target.toList.takeWhile fun c => c ≠ '?' && c ≠ '#'
  let path := match cs with
    | '/' :: _ => cs
    | _ =>
      match cs.dropWhile isSchemeChar with
      | ':' :: '/' :: '/' :: rest => rest.dropWhile (· ≠ '/')
      | _ => []
  String.ofList path

/-- The answer to a request. Pages can be read, and their heads; a head has no body. -/
def respond (readiness : Readiness) (metrics : Metrics) (method target : String) : ProbeReply :=
  match page? readiness metrics (pathOf target) with
  | none => ⟨404, none, []⟩
  | some page =>
    if method = "GET" then page
    else if method = "HEAD" then { page with body := [] }
    else ⟨405, none, []⟩

end Probe

end LinkKeeper
