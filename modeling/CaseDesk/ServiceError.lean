/-
  Errors: everything that can go wrong while a call is served.

  * `StoreError`: what can go wrong with a row or a search.
  * `ServiceError`: all causes; `worded` leaves the wording to its raiser.
  * `ServiceError.category`, `ServiceError.message`: the kind and the wording.
  * `ServiceError.status`: how the error is answered; the wording of an
    internal error is not shown to callers.
-/
import CaseDesk.Access.Grants
import CaseDesk.Etag
import CaseDesk.Status
import CaseDesk.Url.Basic

namespace CaseDesk

open Text (integerText)

/-- What can go wrong with a row or a search; `kind` names the kind of record. -/
inductive StoreError where
  | notFound (kind : String) (id : Int)
  | versionMismatch (kind : String) (id expected actual : Int)
  | invalidSearch (reason : String)
  deriving DecidableEq, Repr

/-- The kinds of errors. -/
inductive Category where
  | invalidArgument
  | etag
  | alreadyExists
  | failedPrecondition
  | permissionDenied
  | unauthenticated
  | internal
  | notFound
  | versionMismatch
  | invalidSearch
  deriving DecidableEq, Repr

/-- Why a call fails. -/
inductive ServiceError where
  /-- A row cannot be addressed or a search text cannot be used. -/
  | store (why : StoreError)
  /-- An entity tag cannot be read. -/
  | etag (why : EtagError)
  /-- A create or update request has no input. -/
  | inputMissing
  /-- A text that must not be blank is blank. -/
  | textMissing (field : String)
  /-- An id that must be positive is not. -/
  | idNotPositive (field : String)
  /-- A duration is negative. -/
  | durationNegative (field : String)
  /-- A validity window ends before it starts. -/
  | windowReversed
  /-- A priority that is asked for does not exist. -/
  | priorityUnknown (id : Int)
  /-- A source has no type. -/
  | sourceTypeMissing
  /-- A number is no type of source. -/
  | sourceTypeUnknown (number : Int)
  /-- A text is no colour. -/
  | colorMalformed (text : String)
  /-- A mask selects no field that may be edited. -/
  | maskSelectsNothing
  /-- A text is no URL. -/
  | urlMalformed (why : UrlError)
  /-- A URL has no hierarchy of path segments. -/
  | urlNotHierarchical (text : String)
  /-- A priority belongs to another condition of the same agreement. -/
  | priorityTaken (priority condition sla : Int)
  /-- The initial condition of a status cannot stop being initial by itself. -/
  | stillInitial (condition : Int)
  /-- The initial condition of a status cannot be deleted before the others. -/
  | initialCondition (condition status : Int)
  /-- Only the author of a comment may change it. -/
  | notTheAuthor (comment : Int)
  /-- The caller may not use the method. -/
  | accessDenied (access : Access) (objclass method : String)
  /-- The call carries no caller. -/
  | callerMissing
  /-- A header holds bytes that are no printable ASCII. -/
  | headerNotAscii (header : String)
  /-- The header with the user id is missing. -/
  | userIdMissing (header : String)
  /-- The header with the user id holds no positive id. -/
  | userIdMalformed (header : String)
  /-- The header with the grants cannot be read. -/
  | grantsMalformed (header : String) (why : GrantsError)
  /-- The method is not in the registry. -/
  | notRegistered (service method : String)
  /-- An error of a given kind whose wording its raiser chooses. -/
  | worded (category : Category) (text : String)
  deriving DecidableEq, Repr

/-- The wording of an error. -/
def StoreError.message : StoreError → String
  | notFound kind id => s!"{kind} {integerText id} not found"
  | versionMismatch kind id expected actual =>
    kind ++ " " ++ integerText id ++ " was modified: expected version " ++ integerText expected ++
      ", current version " ++ integerText actual
  | invalidSearch reason => s!"invalid search expression: {reason}"

/-- The kind of an error. -/
def StoreError.category : StoreError → Category
  | notFound .. => .notFound
  | versionMismatch .. => .versionMismatch
  | invalidSearch _ => .invalidSearch

namespace ServiceError

/-- The kind of an error. -/
def category : ServiceError → Category
  | store why => why.category
  | etag _ => .etag
  | inputMissing | textMissing _ | idNotPositive _ | durationNegative _ | windowReversed
  | priorityUnknown _ | sourceTypeMissing | sourceTypeUnknown _ | colorMalformed _
  | maskSelectsNothing | urlMalformed _ | urlNotHierarchical _ => .invalidArgument
  | priorityTaken .. => .alreadyExists
  | stillInitial _ | initialCondition .. => .failedPrecondition
  | notTheAuthor _ | accessDenied .. => .permissionDenied
  | callerMissing | headerNotAscii _ | userIdMissing _ | userIdMalformed _
  | grantsMalformed .. => .unauthenticated
  | notRegistered .. => .internal
  | worded category _ => category

/-- The wording of an error. -/
def message : ServiceError → String
  | store why => why.message
  | etag why => why.message
  | inputMissing => "input is required"
  | textMissing field => s!"{field} is required"
  | idNotPositive field => s!"{field} must be a positive id"
  | durationNegative field => s!"{field} must not be negative"
  | windowReversed => "valid_to must not precede valid_from"
  | priorityUnknown id => s!"unknown priority {integerText id}"
  | sourceTypeMissing => "type is required"
  | sourceTypeUnknown number => s!"unknown source type {integerText number}"
  | colorMalformed text => s!"color must look like #RRGGBB, got {text}"
  | maskSelectsNothing => "x_json_mask selects no editable field"
  | urlMalformed why => s!"url: {why.message}"
  | urlNotHierarchical text => s!"url must be hierarchical: {text}"
  | priorityTaken priority condition sla =>
    "priority " ++ integerText priority ++ " is already used by condition " ++
      integerText condition ++ " of SLA " ++ integerText sla
  | stillInitial condition =>
    "condition " ++ integerText condition ++ " is initial; mark another condition initial first"
  | initialCondition condition status =>
    "condition " ++ integerText condition ++ " is the initial condition of status " ++
      integerText status
  | notTheAuthor comment =>
    "comment " ++ integerText comment ++ " can only be changed by its author"
  | accessDenied access objclass method =>
    s!"{access.word} access to {objclass} is required for {method}"
  | callerMissing => "caller identity is missing"
  | headerNotAscii header => s!"{header} is not valid ASCII"
  | userIdMissing header => s!"{header} is required"
  | userIdMalformed header => s!"invalid {header}"
  | grantsMalformed header why => s!"invalid {header}: {why.message}"
  | notRegistered service method => s!"{service}/{method} is not registered"
  | worded _ text => text

end ServiceError

/-- The code that errors of a kind are answered with. -/
def Category.code : Category → Code
  | invalidArgument | etag | invalidSearch => .invalidArgument
  | notFound => .notFound
  | versionMismatch => .aborted
  | alreadyExists => .alreadyExists
  | failedPrecondition => .failedPrecondition
  | permissionDenied => .permissionDenied
  | unauthenticated => .unauthenticated
  | internal => .internal

/-- How an error is answered. -/
def ServiceError.status (e : ServiceError) : Status where
  code := e.category.code
  message := if e.category = .internal then "Internal server error" else e.message

end CaseDesk
