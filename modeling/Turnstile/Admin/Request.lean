import Turnstile.Refusal
import Turnstile.Configuration.Flaw

namespace Turnstile.Admin

/-! Requests, and the reasons why a request is turned away. -/

inductive Method where
  | get
  | head
  | post
  | put
  | delete
  | other
deriving DecidableEq, Inhabited

def Method.ofName : String → Method
  | "GET" => .get
  | "HEAD" => .head
  | "POST" => .post
  | "PUT" => .put
  | "DELETE" => .delete
  | _ => .other

structure Request where
  method : Method
  /-- The path with everything that may follow it; a scheme and a host may precede it. -/
  target : String
  authorization : Option String
  contentType : Option String
  body : String
deriving DecidableEq, Inhabited

/-- A character that can stand in front of `://` in an absolute target. -/
def isSchemeChar (char : Char) : Bool :=
  char.isAlphanum || char = '+' || char = '-' || char = '.'

/-- What follows the name of the host in an absolute target. -/
def afterHost? (target : List Char) : Option (List Char) :=
  match target.dropWhile isSchemeChar with
  | ':' :: '/' :: '/' :: rest =>
      some (rest.dropWhile fun char => char ≠ '/' && char ≠ '?' && char ≠ '#')
  | _ => none

/-- The parts of the path between its slashes. -/
def Request.path (request : Request) : List String :=
  let target := request.target.toList
  (String.ofList (((afterHost? target).getD target).takeWhile fun char =>
    char ≠ '?' && char ≠ '#')).splitOn "/"

inductive Rejection where
  | missingKey
  | unknownPath
  | unknownMethod
  /-- An escaped part of the path is no text. -/
  | unreadablePath
  | oversizedBody
  | foreignContentType
  /-- The body is not JSON. -/
  | malformedBody
  /-- The body is JSON of another shape. -/
  | mismatchedBody
  /-- Addresses or amounts that cannot be used. -/
  | flawed (flaws : List Flaw)
  | refused (refusal : Refusal)
  | unsaved
deriving DecidableEq

/-- The status code for a refusal. -/
def statusOfRefusal : Refusal → Nat
  | .unauthorized .. => 403
  | .notWhitelisted _ => 403
  | .invalidArgument _ => 400
  | .limitExceeded .. => 400
  | .insufficientBalance .. => 400
  | .supplyOverflow .. => 400
  | .cooldownNotElapsed _ => 429
  | .exceedsPeriodLimit .. => 429
  | .paused => 423

def Rejection.status : Rejection → Nat
  | .missingKey => 401
  | .unknownPath => 404
  | .unknownMethod => 405
  | .unreadablePath => 400
  | .oversizedBody => 413
  | .foreignContentType => 415
  | .malformedBody => 400
  | .mismatchedBody => 422
  | .flawed _ => 400
  | .refused refusal => statusOfRefusal refusal
  | .unsaved => 500

/-- The label and the message with which a rejection explains itself. Those that have to
do with the form of a request do not. -/
def Rejection.explanation? : Rejection → Option (String × String)
  | .flawed flaws => some ("invalid_request", Flaw.joinMessages "; " flaws)
  | .refused refusal => some (refusal.reason, refusal.message)
  | .unsaved => some ("snapshot_failed", "snapshot IO error")
  | _ => none

end Turnstile.Admin
