/-
VoiceDialogue/Platform.lean

What a turn needs to know about the dialogue around it: names, and how a
script reports a result.

A platform can be anything that answers these questions; nothing is checked
here.  The platform of settled conventions answers with their names, and
reports a result by calling a function of the scope object.
-/
import VoiceDialogue.Conventions.Basic

namespace VoiceDialogue

/-- The statement that calls a function of an object with an expression. -/
def callStatement (object function expression : String) : String :=
  object ++ "." ++ function ++ "(" ++ expression ++ ");"

/-- The surroundings of a turn. -/
structure Platform where
  /-- Script object that collects the results of turns. -/
  scopeObject : String
  /-- Function on the scope object that receives results of object calls. -/
  valueResultFunction : String
  /-- Function on the scope object that receives outcomes of transfers. -/
  transferStatusFunction : String
  /-- Where the dialogue continues after a turn. -/
  submitTarget : String
  /-- Application root document. -/
  applicationRoot : Option String
  /-- Id of the single form of a document. -/
  formId : String
  /-- Attribute that carries the number of fetch attempts. -/
  fetchAttemptsAttribute : Option String := none
  /-- Attribute that carries the time allowed for one attempt. -/
  fetchAttemptTimeoutAttribute : Option String := none
  /-- Statement that reports the result of an object call. -/
  valueResultCall : String → String := callStatement scopeObject valueResultFunction
  /-- Statement that reports the outcome of a transfer. -/
  transferStatusCall : String → String := callStatement scopeObject transferStatusFunction

namespace Platform

/-- The platform that answers with the names of some conventions, valid or
not. -/
def ofConventions (c : Conventions) : Platform where
  scopeObject := c.scopeObject
  valueResultFunction := c.valueResultFunction
  transferStatusFunction := c.transferStatusFunction
  submitTarget := c.submitTarget
  applicationRoot := c.applicationRoot
  formId := c.formId
  fetchAttemptsAttribute := c.fetchAttemptsAttribute
  fetchAttemptTimeoutAttribute := c.fetchAttemptTimeoutAttribute

/-- The first answer that is an empty name: the five names that every platform
has come before the three that it may not have. -/
def firstEmpty? (p : Platform) : Option Convention :=
  if p.scopeObject = "" then some .scopeObject
  else if p.valueResultFunction = "" then some .valueResultFunction
  else if p.transferStatusFunction = "" then some .transferStatusFunction
  else if p.submitTarget = "" then some .submitTarget
  else if p.formId = "" then some .formId
  else if p.applicationRoot = some "" then some .applicationRoot
  else if p.fetchAttemptsAttribute = some "" then some .fetchAttemptsAttribute
  else if p.fetchAttemptTimeoutAttribute = some "" then some .fetchAttemptTimeoutAttribute
  else none

end Platform

/-- The platform of settled conventions. -/
def SettledConventions.platform (c : SettledConventions) : Platform := .ofConventions c.names

end VoiceDialogue
