/-
VoiceDialogue/Turn/ObjectCall.lean

Object calls: the dialogue asks the platform to run one of its objects.

Everything about an object call is optional; texts that are given must not be
empty.
-/
import VoiceDialogue.Turn.FetchPolicy
import VoiceDialogue.Turn.Parameter

namespace VoiceDialogue

/-- A call of a platform object. -/
structure ObjectCall where
  /-- Where the object is implemented. -/
  classId : Option String := none
  /-- Base of the relative locations. -/
  codeBase : Option String := none
  /-- Content type of the code. -/
  codeType : Option String := none
  /-- Where the data of the object is. -/
  data : Option String := none
  /-- Content type of the data. -/
  mediaType : Option String := none
  archives : List String := []
  fetch : Option FetchPolicy := none
  parameters : List Parameter := []
  /-- Script that runs before the result is reported. -/
  script : Option String := none
deriving DecidableEq

namespace ObjectCall

/-- The canonical JSON of an object call. -/
def toJson (c : ObjectCall) : Json :=
  .object [("classId", .ofOption .str c.classId), ("codeBase", .ofOption .str c.codeBase),
    ("codeType", .ofOption .str c.codeType), ("data", .ofOption .str c.data),
    ("type", .ofOption .str c.mediaType), ("postObjectScript", .ofOption .str c.script),
    ("parameters", .arr (c.parameters.map Parameter.toJson)),
    ("fetchConfiguration", .ofOption FetchPolicy.toJson c.fetch),
    ("archives", .arr (c.archives.map .str))]

/-! ### Drafts -/

/-- One setting of an object call. -/
inductive Setting
  | classId (text : String)
  | codeBase (text : String)
  | codeType (text : String)
  | data (text : String)
  | mediaType (text : String)
  | archive (location : String)
  | archives (locations : List String)
  | fetch (policy : FetchPolicy)
  | parameter (p : Parameter)
  | parameters (ps : List Parameter)
  | script (code : String)

/-- An object call that has not been checked, and the name of its turn. -/
structure Draft where
  name : String
  call : ObjectCall := {}

namespace Draft

/-- Takes a setting.  Archives and parameters are appended; every other
setting takes the place of an earlier one of its kind. -/
def set (d : Draft) : Setting → Draft
  | .classId text => { d with call.classId := some text }
  | .codeBase text => { d with call.codeBase := some text }
  | .codeType text => { d with call.codeType := some text }
  | .data text => { d with call.data := some text }
  | .mediaType text => { d with call.mediaType := some text }
  | .archive location => { d with call.archives := d.call.archives ++ [location] }
  | .archives locations => { d with call.archives := d.call.archives ++ locations }
  | .fetch policy => { d with call.fetch := some policy }
  | .parameter p => { d with call.parameters := d.call.parameters ++ [p] }
  | .parameters ps => { d with call.parameters := d.call.parameters ++ ps }
  | .script code => { d with call.script := some code }

/-- Checks the archives and then the other texts, in a fixed order. -/
def objectCall (d : Draft) : Built ObjectCall :=
  if "" ∈ d.call.archives then .error (.empty "archive")
  else do
    let classId ← nonEmpty? "classId" d.call.classId
    let codeBase ← nonEmpty? "codeBase" d.call.codeBase
    let codeType ← nonEmpty? "codeType" d.call.codeType
    let data ← nonEmpty? "data" d.call.data
    let mediaType ← nonEmpty? "type" d.call.mediaType
    let script ← nonEmpty? "postObjectScript" d.call.script
    return { d.call with classId, codeBase, codeType, data, mediaType, script }

end Draft

end ObjectCall

end VoiceDialogue
