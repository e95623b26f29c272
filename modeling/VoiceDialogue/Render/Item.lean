/-
VoiceDialogue/Render/Item.lean

The form item of a turn, one for each kind of turn.

A message becomes a block: its prompt, and then the dialogue goes on.  An
object call becomes an object with its parameters, and when it is filled, the
result is reported.  A transfer becomes a transfer element.  If it is
supervised, its outcome is reported by one branch for every outcome with a
code; any other code is passed on as it is.  If a success releases the
caller, the event that tells so is caught.

Whatever happens, the last thing on every way is a jump to where the dialogue
continues (`onward`).
-/
import VoiceDialogue.Platform
import VoiceDialogue.Render.Prompt
import VoiceDialogue.Turn.Basic
import VoiceDialogue.Turn.Outcome

namespace VoiceDialogue

namespace Render

/-! ### Building blocks -/

/-- The jump to where the dialogue continues. -/
def onward (p : Platform) : Element := (Element.new "goto").setAttribute "next" p.submitTarget

/-- A script. -/
def script (code : String) : Element := (Element.new "script").appendText code

/-! ### Messages -/

/-- The prompt of a message. -/
def messagePrompt (m : Message) : Except Obstacle Element :=
  let empty := ((Element.new "prompt").setAttribute? "xml:lang" m.language).setAttribute? "bargein"
    (m.bargeIn.map fun b => if b then "true" else "false")
  appendItems empty m.items

/-- The block of a message. -/
def messageItem (p : Platform) (m : Message) : Except Obstacle Element :=
  match messagePrompt m with
  | .error o => .error o
  | .ok prompt => .ok (((Element.new "block").append prompt).append (onward p))

/-! ### Object calls -/

/-- Writes a fetch policy into attributes.  Cache ages are whole seconds;
attempts have no attributes of their own and appear only under the names that
the platform gives them. -/
def setFetchAttributes (p : Platform) (policy : FetchPolicy) (e : Element) : Element :=
  let e := e.setAttribute? "fetchhint" (policy.hint.map FetchHint.name)
  let e := e.setAttribute? "fetchtimeout" (policy.timeout.map Duration.designation)
  let e := e.setAttribute? "maxage" (policy.maxAge.map fun d => d.wholeSecs.toNat.repr)
  let e := e.setAttribute? "maxstale" (policy.maxStale.map fun d => d.wholeSecs.toNat.repr)
  let e :=
    match p.fetchAttemptsAttribute with
    | none => e
    | some name => e.setAttribute? name (policy.attempts.map fun n => n.toNat.repr)
  match p.fetchAttemptTimeoutAttribute with
  | none => e
  | some name => e.setAttribute? name (policy.attemptTimeout.map Duration.designation)

/-- A parameter. -/
def param (q : Parameter) : Element :=
  let e := (Element.new "param").setAttribute "name" q.name
  let e := (e.setAttribute? "value" q.value?).setAttribute? "expr" q.expression?
  (e.setAttribute? "type" q.mediaType).setAttribute? "valuetype"
    (q.valueType.map Parameter.ValueType.name)

/-- The tag of an object: its name and its attributes. -/
def objectTag (p : Platform) (c : ObjectCall) : Element :=
  let e := (Element.new "object").setAttribute "name" "object"
  let e :=
    if c.archives.isEmpty then e
    else e.setAttribute "archive" (String.intercalate " " c.archives)
  let e := (e.setAttribute? "classid" c.classId).setAttribute? "codebase" c.codeBase
  let e := (e.setAttribute? "codetype" c.codeType).setAttribute? "data" c.data
  let e := e.setAttribute? "type" c.mediaType
  match c.fetch with
  | none => e
  | some policy => setFetchAttributes p policy e

/-- What happens when an object has returned. -/
def objectFilled (p : Platform) (c : ObjectCall) : Element :=
  let result := ((Element.new "var").setAttribute "name" "object").setAttribute "expr"
    "dialog.object"
  let e := (Element.new "filled").append result
  let e :=
    match c.script with
    | none => e
    | some code => e.append (script code)
  (e.append (script (p.valueResultCall "object"))).append (onward p)

/-- The object of an object call. -/
def objectItem (p : Platform) (c : ObjectCall) : Except Obstacle Element :=
  if "" ∈ c.archives then .error .emptyArchive
  else
    let e := c.parameters.foldl (fun e q => e.append (param q)) (objectTag p c)
    .ok (e.append (objectFilled p c))

/-! ### Transfers -/

/-- The condition that a transfer had an outcome. -/
def outcomeIs (o : Outcome) : String := "transfer == '" ++ o.code ++ "'"

/-- Appends a report of an outcome and the jump that follows it. -/
def appendReport (p : Platform) (expression : String) (e : Element) : Element :=
  (e.append (script (p.transferStatusCall expression))).append (onward p)

/-- Appends the report of an outcome that has a code. -/
def appendOutcome (p : Platform) (o : Outcome) (e : Element) : Element :=
  appendReport p ("'" ++ o.code ++ "'") e

/-- The branches for the outcomes after the first one. -/
def appendFurther (p : Platform) (e : Element) (o : Outcome) : Element :=
  appendOutcome p o (e.append ((Element.new "elseif").setAttribute "cond" (outcomeIs o)))

/-- One branch for every outcome, and one for every other code. -/
def outcomeBranches (p : Platform) : Element :=
  let e :=
    match Outcome.all with
    | [] => Element.new "if"
    | first :: further =>
        let e := (Element.new "if").setAttribute "cond" (outcomeIs first)
        further.foldl (appendFurther p) (appendOutcome p first e)
  appendReport p "transfer" (e.append (.new "else"))

/-- The tag of a transfer: its name and its attributes. -/
def transferTag (t : Transfer) : Element :=
  let e := (Element.new "transfer").setAttribute "name" "transfer"
  let e := (e.setAttribute "dest" t.destination).setAttribute "type" t.style.name
  let e := e.setAttribute? "connecttimeout" (t.connectTimeout.map Duration.designation)
  let e := e.setAttribute? "maxtime" (t.maxTime.map Duration.designation)
  (e.setAttribute? "transferaudio" t.transferAudio).setAttribute? "aai" t.aai

/-- Appends what happens after a transfer. -/
def appendEnding (p : Platform) (s : Transfer.Style) (e : Element) : Element :=
  let e :=
    if s.releasesCaller then
      let released := (Element.new "catch").setAttribute "event" "connection.disconnect.transfer"
      e.append (released.append (onward p))
    else e
  let ending := if s.isSupervised then outcomeBranches p else onward p
  e.append ((Element.new "filled").append ending)

/-- The transfer element of a transfer. -/
def transferItem (p : Platform) (t : Transfer) : Except Obstacle Element :=
  if t.destination = "" then .error .emptyDestination
  else if t.items.isEmpty then .ok (appendEnding p t.style (transferTag t))
  else
    match prompt t.items with
    | .error o => .error o
    | .ok spoken => .ok (appendEnding p t.style ((transferTag t).append spoken))

/-! ### Any kind -/

/-- The form item of a payload. -/
def item (p : Platform) : Payload → Except Obstacle Element
  | .message m => messageItem p m
  | .objectCall c => objectItem p c
  | .transfer t => transferItem p t

end Render

end VoiceDialogue
