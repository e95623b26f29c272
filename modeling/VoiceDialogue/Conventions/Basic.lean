/-
VoiceDialogue/Conventions/Basic.lean

The naming conventions of a platform: the eight names that compiled documents
use without knowing what they mean.

Five of them are required and three are optional.  A name that is given must
not be empty (`Conventions.validate`); where several are, the required ones
are reported before the optional ones.  `Settled` conventions are those that
passed this check.
-/
import VoiceDialogue.Json.Value

namespace VoiceDialogue

/-- One of the eight names. -/
inductive Convention
  | scopeObject
  | valueResultFunction
  | transferStatusFunction
  | submitTarget
  | applicationRoot
  | formId
  | fetchAttemptsAttribute
  | fetchAttemptTimeoutAttribute
deriving DecidableEq, Repr

namespace Convention

/-- Every name, in the order in which a configuration lists them. -/
def all : List Convention :=
  [.scopeObject, .valueResultFunction, .transferStatusFunction, .submitTarget, .applicationRoot,
    .formId, .fetchAttemptsAttribute, .fetchAttemptTimeoutAttribute]

/-- The names that may be left out. -/
def isOptional : Convention → Bool
  | .applicationRoot | .fetchAttemptsAttribute | .fetchAttemptTimeoutAttribute => true
  | _ => false

/-- Every name, the required ones first: the order of validation. -/
def byImportance : List Convention :=
  all.filter (fun c => !c.isOptional) ++ all.filter (fun c => c.isOptional)

/-- The member of a configuration that holds the name. -/
def key : Convention → String
  | .scopeObject => "scopeObject"
  | .valueResultFunction => "valueResultFunction"
  | .transferStatusFunction => "transferStatusFunction"
  | .submitTarget => "submitTarget"
  | .applicationRoot => "applicationRoot"
  | .formId => "formId"
  | .fetchAttemptsAttribute => "fetchAttemptsAttribute"
  | .fetchAttemptTimeoutAttribute => "fetchAttemptTimeoutAttribute"

/-- The name in words. -/
def phrase : Convention → String
  | .scopeObject => "scope object"
  | .valueResultFunction => "value result function"
  | .transferStatusFunction => "transfer status function"
  | .submitTarget => "submit target"
  | .applicationRoot => "application root"
  | .formId => "form id"
  | .fetchAttemptsAttribute => "fetch attempts attribute"
  | .fetchAttemptTimeoutAttribute => "fetch attempt timeout attribute"

end Convention

/-- The conventions of a platform. -/
structure Conventions where
  /-- Script object that collects the results of turns. -/
  scopeObject : String := "application.dialogue"
  /-- Function on the scope object that receives results of object calls. -/
  valueResultFunction : String := "addValueResult"
  /-- Function on the scope object that receives outcomes of transfers. -/
  transferStatusFunction : String := "addTransferStatusResult"
  /-- Where the dialogue continues after a turn. -/
  submitTarget : String := "root.vxml#submit"
  /-- Application root document. -/
  applicationRoot : Option String := some "root.vxml"
  /-- Id of the single form of a document. -/
  formId : String := "form"
  /-- Attribute that carries the number of fetch attempts. -/
  fetchAttemptsAttribute : Option String := none
  /-- Attribute that carries the time allowed for one attempt. -/
  fetchAttemptTimeoutAttribute : Option String := none
deriving DecidableEq

/-- What is wrong with conventions: a name that is empty. -/
inductive ConventionError
  | empty (c : Convention)
deriving DecidableEq

/-- The wording of an error. -/
def ConventionError.message : ConventionError → String
  | .empty c => "render configuration: " ++ c.key ++ " must not be empty"

namespace Conventions

/-- The name that is used for a convention, if there is one. -/
def get (names : Conventions) : Convention → Option String
  | .scopeObject => some names.scopeObject
  | .valueResultFunction => some names.valueResultFunction
  | .transferStatusFunction => some names.transferStatusFunction
  | .submitTarget => some names.submitTarget
  | .applicationRoot => names.applicationRoot
  | .formId => some names.formId
  | .fetchAttemptsAttribute => names.fetchAttemptsAttribute
  | .fetchAttemptTimeoutAttribute => names.fetchAttemptTimeoutAttribute

/-- Replaces one name.  A required name cannot be taken away. -/
def set (names : Conventions) : Convention → Option String → Conventions
  | .scopeObject, v => { names with scopeObject := v.getD names.scopeObject }
  | .valueResultFunction, v => { names with valueResultFunction := v.getD names.valueResultFunction }
  | .transferStatusFunction, v =>
      { names with transferStatusFunction := v.getD names.transferStatusFunction }
  | .submitTarget, v => { names with submitTarget := v.getD names.submitTarget }
  | .applicationRoot, v => { names with applicationRoot := v }
  | .formId, v => { names with formId := v.getD names.formId }
  | .fetchAttemptsAttribute, v => { names with fetchAttemptsAttribute := v }
  | .fetchAttemptTimeoutAttribute, v => { names with fetchAttemptTimeoutAttribute := v }

/-- Checks that no name is empty. -/
def validate (names : Conventions) : Except ConventionError Unit :=
  match Convention.byImportance.find? (fun c => names.get c = some "") with
  | some c => .error (.empty c)
  | none => .ok ()

/-- The configuration that holds the names, each of them given. -/
def toJson (names : Conventions) : Json :=
  .obj (Convention.all.map fun c => (c.key, Json.ofOption .str (names.get c)))

end Conventions

/-- Conventions none of whose names is empty. -/
structure SettledConventions where
  names : Conventions
  valid : names.validate = .ok ()

namespace SettledConventions

/-- Settles conventions that validate. -/
def ofConventions (names : Conventions) : Except ConventionError SettledConventions :=
  match h : names.validate with
  | .error e => .error e
  | .ok () => .ok ⟨names, h⟩

/-- The conventions that hold unless a platform says otherwise. -/
def default : SettledConventions := ⟨{}, rfl⟩

end SettledConventions

end VoiceDialogue
