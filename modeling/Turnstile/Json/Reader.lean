import Turnstile.Json.Token

namespace Turnstile.Json

/-! Reading values from words. The reader takes one word at a time and keeps the
arrays and objects it is inside of, innermost first. Where the words stop fitting
together it closes everything that is open around a cut, so that a structure can
still be examined up to that point. An array whose last item is no value is closed
around a cut, too, but the reader goes on behind it. -/

/-- An array or object that is not closed yet, without the value being read. -/
inductive Frame where
  /-- The items before it, newest first. -/
  | items (before : List Value)
  /-- The members before it, newest first, and its key. -/
  | members (before : List (Literal × Value)) (key : Literal)

/-- What may come next. -/
inductive Reader where
  | expectValue (frames : List Frame)
  /-- The first item of an array, or the end of the array. -/
  | expectItem (frames : List Frame)
  /-- A key, or the end of the object if it has no members yet. -/
  | expectKey (before : List (Literal × Value)) (frames : List Frame)
  | expectColon (before : List (Literal × Value)) (key : Literal) (frames : List Frame)
  /-- Something that can follow a value: nothing at all, if no frame is left. -/
  | afterValue (value : Value) (frames : List Frame)
  /-- The value is complete but more words followed. -/
  | surplus (value : Value)
  /-- The words did not fit together. -/
  | stopped (value : Value)

namespace Frame

/-- The array or object, closed behind the value being read. -/
def close (frame : Frame) (value : Value) : Value :=
  match frame with
  | .items before => .array (value :: before).reverse
  | .members before key => .object ((key, value) :: before).reverse

end Frame

/-- Close everything that is open around a value. -/
def unwind (value : Value) (frames : List Frame) : Value :=
  frames.foldl (fun inner frame => frame.close inner) value

namespace Reader

def stop (value : Value) (frames : List Frame) : Reader :=
  .stopped (unwind value frames)

/-- An object that was cut off before its next key. -/
def cutBeforeKey (before : List (Literal × Value)) : Value :=
  .object (((.unpaired false, .cut) : Literal × Value) :: before).reverse

def stepValue (frames : List Frame) : Token → Reader
  | .null => .afterValue .null frames
  | .bool truth => .afterValue (.bool truth) frames
  | .natural number => .afterValue (.natural number) frames
  | .number numeral => .afterValue (.number numeral) frames
  | .string literal => .afterValue (.string literal) frames
  | .openArray => .expectItem frames
  | .openObject => .expectKey [] frames
  | .closeArray =>
      match frames with
      | .items before :: outer => .afterValue ((Frame.items before).close .cut) outer
      | _ => stop .cut frames
  | .broken =>
      match frames with
      | .items _ :: _ => .afterValue .cut frames
      | _ => stop .cut frames
  | _ => stop .cut frames

def stepKey (before : List (Literal × Value)) (frames : List Frame) : Token → Reader
  | .string literal => .expectColon before literal frames
  | .closeObject =>
      if before.isEmpty then .afterValue (.object []) frames
      else stop (cutBeforeKey before) frames
  | _ => stop (cutBeforeKey before) frames

def stepAfter (value : Value) : List Frame → Token → Reader
  | [], _ => .surplus value
  | .items before :: frames, .comma => .expectValue (.items (value :: before) :: frames)
  | frame@(.items _) :: frames, .closeArray => .afterValue (frame.close value) frames
  | .items before :: frames, _ => stop (.array (.cut :: value :: before).reverse) frames
  | .members before key :: frames, .comma => .expectKey ((key, value) :: before) frames
  | frame@(.members ..) :: frames, .closeObject => .afterValue (frame.close value) frames
  | .members before key :: frames, _ => stop (cutBeforeKey ((key, value) :: before)) frames

def step : Reader → Token → Reader
  | .expectValue frames, token => stepValue frames token
  | .expectItem frames, .closeArray => .afterValue (.array []) frames
  | .expectItem frames, token => stepValue (.items [] :: frames) token
  | .expectKey before frames, token => stepKey before frames token
  | .expectColon before key frames, .colon => .expectValue (.members before key :: frames)
  | .expectColon before key frames, _ => stop (.object ((key, .cut) :: before).reverse) frames
  | .afterValue value frames, token => stepAfter value frames token
  | .surplus value, _ => .surplus value
  | .stopped value, _ => .stopped value

/-- The value read when the words have come to an end. -/
def finish : Reader → Value
  | .expectValue frames => unwind .cut frames
  | .expectItem frames => unwind (.array [.cut]) frames
  | .expectKey before frames => unwind (cutBeforeKey before) frames
  | .expectColon before key frames => unwind (.object ((key, .cut) :: before).reverse) frames
  | .afterValue value [] => value
  | .afterValue value (.items before :: frames) =>
      unwind (.array (.cut :: value :: before).reverse) frames
  | .afterValue value (.members before key :: frames) =>
      unwind (cutBeforeKey ((key, value) :: before)) frames
  | .surplus value => value
  | .stopped value => value

/-- Exactly one value has been read. -/
def isComplete : Reader → Bool
  | .afterValue _ [] => true
  | _ => false

end Reader

/-- A text as far as it is JSON. -/
structure Document where
  value : Value
  /-- The text has been read to its end and found to be one value and nothing else. -/
  complete : Bool

def Document.read (text : String) : Document :=
  let reader := (tokens text.toList).foldl Reader.step (.expectValue [])
  { value := reader.finish, complete := reader.isComplete }

/-- The value of a text that is JSON throughout. -/
def Value.ofText? (text : String) : Option Value :=
  let document := Document.read text
  if document.complete && document.value.isWhole then some document.value else none

end Turnstile.Json
