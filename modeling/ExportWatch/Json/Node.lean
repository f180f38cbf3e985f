import ExportWatch.Json.Token

/-! JSON text as a tree that may break off. The tree holds everything that was
read, and the fault that ended the reading at the place where it was met. A
decoder walks the tree from left to right, so it meets a value of the wrong
shape before a fault that comes later in the text. -/

namespace ExportWatch.Json

/-- An array or object also says how it ended. Containers that are nested too
deeply are marked: such text can be skipped but not read. A word that breaks
off is told from other broken text, for it may stand where no word was wanted. -/
inductive Node where
  | null
  | bool (value : Bool)
  | number (value : Except Fault Number)
  | text (content : Except Fault (List Char))
  | array (items : List Node) (ending : Option Fault)
  | object (members : List (Except Fault (List Char) × Node)) (ending : Option Fault)
  | tooDeep (inner : Node)
  | word (fault : Fault)
  | broken (fault : Fault)
  deriving Inhabited

abbrev Key : Type :=
  Except Fault (List Char)

def depthLimit : Nat :=
  127

/-- A document is one node; `trailing` tells that text follows it. -/
structure Document where
  node : Node
  trailing : Bool

/-- Reading is one step for each token. A frame is a container that is not yet
closed, with its parts last first. -/
inductive Frame where
  | items (done : List Node)
  | members (done : List (Key × Node)) (key : Key)

namespace Frame

def add (node : Node) : Frame → Node
  | items done => .array (done.reverse ++ [node]) none
  | members done key => .object (done.reverse ++ [(key, node)]) none

end Frame

def atDepth (frames : List Frame) (node : Node) : Node :=
  if frames.length < depthLimit then node else .tooDeep node

/-- Nothing follows a fault: the open containers are closed around it. -/
def closeAround (node : Node) : List Frame → Node
  | [] => node
  | frame :: outer => closeAround (atDepth outer (frame.add node)) outer

inductive Reading where
  | beforeValue (canClose : Bool) (frames : List Frame)
  | beforeKey (canClose : Bool) (done : List (Key × Node)) (frames : List Frame)
  | beforeColon (done : List (Key × Node)) (key : Key) (frames : List Frame)
  | afterValue (node : Node) (frames : List Frame)
  | finished (document : Document)

namespace Reading

def start : Reading :=
  .beforeValue false []

def fail (node : Node) (frames : List Frame) : Reading :=
  .finished ⟨closeAround node frames, false⟩

def closeBefore (done : List (Key × Node)) (fault : Fault) (frames : List Frame) : Node :=
  closeAround (.broken fault) (.members done (.error fault) :: frames)

/-- A member whose name is missing is a member nonetheless. -/
def failMember (done : List (Key × Node)) (fault : Fault) (frames : List Frame) : Reading :=
  .finished ⟨closeBefore done fault frames, false⟩

/-- A container whose next part or end is missing. -/
def failSeparator (node : Node) (fault : Fault) : List Frame → Reading
  | [] => .finished ⟨node, true⟩
  | .items done :: outer =>
      fail (atDepth outer (.array (done.reverse ++ [node]) (some fault))) outer
  | .members done key :: outer =>
      fail (atDepth outer (.object (done.reverse ++ [(key, node)]) (some fault))) outer

/-! `[` may be closed at once; `canClose` tells so. After a comma it may not. -/

def stepValue (canClose : Bool) (frames : List Frame) : Token → Reading
  | .openObject => .beforeKey true [] frames
  | .openArray => .beforeValue true (.items [] :: frames)
  | .null => .afterValue .null frames
  | .bool value => .afterValue (.bool value) frames
  | .number value => .afterValue (.number value) frames
  | .text content => .afterValue (.text content) frames
  | .word fault => fail (.word fault) frames
  | .broken fault => fail (.broken fault) frames
  | .closeArray =>
      match canClose, frames with
      | true, .items _ :: outer => .afterValue (atDepth outer (.array [] none)) outer
      | _, .items done :: outer =>
          fail (atDepth outer (.array done.reverse (some .malformed))) outer
      | _, _ => fail (.broken .malformed) frames
  | .closeObject | .colon | .comma | .stray => fail (.broken .malformed) frames

def stepKey (canClose : Bool) (done : List (Key × Node)) (frames : List Frame) : Token → Reading
  | .text content => .beforeColon done content frames
  | .closeObject =>
      if canClose then .afterValue (atDepth frames (.object [] none)) frames
      else failMember done .malformed frames
  | .broken fault => failMember done fault frames
  | _ => failMember done .malformed frames

def stepColon (done : List (Key × Node)) (key : Key) (frames : List Frame) : Token → Reading
  | .colon => .beforeValue false (.members done key :: frames)
  | .broken fault => fail (.broken fault) (.members done key :: frames)
  | _ => fail (.broken .malformed) (.members done key :: frames)

def stepSeparator (node : Node) (frames : List Frame) (token : Token) : Reading :=
  match token, frames with
  | .comma, .items done :: outer => .beforeValue false (.items (node :: done) :: outer)
  | .comma, .members done key :: outer => .beforeKey false ((key, node) :: done) outer
  | .closeArray, .items done :: outer =>
      .afterValue (atDepth outer (.array (done.reverse ++ [node]) none)) outer
  | .closeObject, .members done key :: outer =>
      .afterValue (atDepth outer (.object (done.reverse ++ [(key, node)]) none)) outer
  | .broken fault, frames => failSeparator node fault frames
  | _, frames => failSeparator node .malformed frames

def step : Reading → Token → Reading
  | .beforeValue canClose frames, token => stepValue canClose frames token
  | .beforeKey canClose done frames, token => stepKey canClose done frames token
  | .beforeColon done key frames, token => stepColon done key frames token
  | .afterValue node frames, token => stepSeparator node frames token
  | .finished document, _ => .finished document

def document : Reading → Document
  | .beforeValue _ frames => ⟨closeAround (.broken .truncated) frames, false⟩
  | .beforeKey _ done frames => ⟨closeBefore done .truncated frames, false⟩
  | .beforeColon done key frames =>
      ⟨closeAround (.broken .truncated) (.members done key :: frames), false⟩
  | .afterValue node [] => ⟨node, false⟩
  | .afterValue node (.items done :: outer) =>
      ⟨closeAround (atDepth outer (.array (done.reverse ++ [node]) (some .truncated))) outer, false⟩
  | .afterValue node (.members done key :: outer) =>
      ⟨closeAround
        (atDepth outer (.object (done.reverse ++ [(key, node)]) (some .truncated))) outer, false⟩
  | .finished document => document

end Reading

def readDocument (text : List Char) : Document :=
  ((tokens text).foldl Reading.step Reading.start).document

end ExportWatch.Json
