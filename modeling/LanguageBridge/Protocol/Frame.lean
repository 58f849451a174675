import LanguageBridge.Json.Reader
import LanguageBridge.Protocol.Message

set_option autoImplicit false

/-! # Frames

On the wire a message stands in a frame: header lines, an empty line, and as many bytes as the
header says. `Frame.next` takes the first message from the bytes that have arrived: it may still
be incomplete, and it may be broken, which leaves nothing behind that could be read.

A header line is a name, `: ` and a value, and ends in a carriage return and a line feed. Only the
header `Content-Length` matters, in any mix of upper and lower case; the last one counts.
-/

namespace LanguageBridge.Frame

/-- What the bytes that have arrived begin with. -/
inductive Arrival where
  /-- A whole message, and the bytes after it. -/
  | message (message : Message) (rest : Bytes)
  /-- The beginning of a frame. -/
  | incomplete
  /-- Something that is no frame. -/
  | broken

/-- The first line with its line feed, and the bytes after it. -/
def line? : Bytes → Option (Bytes × Bytes)
  | [] => none
  | b :: rest =>
    if b = 0x0A then some ([b], rest)
    else (line? rest).map fun (line, after) => (b :: line, after)

theorem line?_length {s line rest : Bytes} (h : line? s = some (line, rest)) :
    rest.length < s.length := by
  induction s generalizing line with
  | nil => simp [line?] at h
  | cons b s ih =>
    unfold line? at h
    split at h
    · simp only [Option.some.injEq, Prod.mk.injEq] at h
      simp [h.2]
    · obtain ⟨⟨line', rest'⟩, h', e⟩ := Option.map_eq_some_iff.1 h
      simp only [Prod.mk.injEq] at e
      obtain ⟨-, rfl⟩ := e
      have := ih h'
      simp only [List.length_cons]
      omega

/-- A line without the carriage return and the line feed at its end. -/
def lineContent? (line : Bytes) : Option Bytes :=
  match line.reverse with
  | 0x0A :: 0x0D :: back => some back.reverse
  | _ => none

/-- The parts of a text before and after the first `: `. -/
def splitHeader? : List Char → Option (List Char × List Char)
  | [] => none
  | ':' :: ' ' :: rest => some ([], rest)
  | c :: rest => (splitHeader? rest).map fun (name, value) => (c :: name, value)

/-- The largest number of bytes that a header can announce. -/
def maxLength : Nat := Nat.pow 2 64 - 1

/-- The largest number of bytes that a body can have. -/
def maxBody : Nat := Nat.pow 2 63 - 1

/-- The value of some digits. -/
def digits? : Nat → List Char → Option Nat
  | n, [] => some n
  | n, c :: rest =>
    if c.isDigit then digits? (n * 10 + (c.toNat - '0'.toNat)) rest else none

/-- The number that a header announces. -/
def length? (value : List Char) : Option Nat :=
  let digits := match value with
    | '+' :: rest => rest
    | other => other
  if digits.isEmpty then none
  else
    match digits? 0 digits with
    | some n => if n ≤ maxLength then some n else none
    | none => none

/-- The name of the header with the number of bytes. -/
def lengthHeader : String := "content-length"

/-- What a header line says: nothing of interest, or a number of bytes. -/
def header? (content : Bytes) : Option (Option Nat) :=
  match (Text.decode? content).bind fun s => splitHeader? s.toList with
  | none => none
  | some (name, value) =>
    if name.map Char.toLower = lengthHeader.toList then (length? value).map some else some none

/-- The message in the body of a frame. -/
def bodyMessage? (body : Bytes) : Option Message :=
  match Text.decode? body with
  | none => none
  | some text =>
    match Json.writtenOfChars text.toList with
    | .ok value => Message.ofWritten? value
    | .error _ => none

/-- Reads header lines, with the number of bytes that they have announced so far, and then the
body. -/
def read (announced : Option Nat) (s : Bytes) : Arrival :=
  match _h : line? s with
  | none => .incomplete
  | some (line, rest) =>
    match lineContent? line with
    | none => .broken
    | some [] =>
      match announced with
      | none => .broken
      | some n =>
        if n > maxBody then .broken
        else if rest.length < n then .incomplete
        else
          match bodyMessage? (rest.take n) with
          | some message => .message message (rest.drop n)
          | none => .broken
    | some content =>
      match header? content with
      | none => .broken
      | some none => read announced rest
      | some (some n) => read (some n) rest
termination_by s.length
decreasing_by
  all_goals exact line?_length _h

/-- The first message in the bytes that have arrived. -/
def next (s : Bytes) : Arrival := read none s

/-- The frame of a message. -/
def ofMessage (message : Json) : Bytes :=
  let body := Text.utf8Bytes message.render
  Text.utf8Bytes ("Content-Length: " ++ toString body.length ++ "\r\n\r\n") ++ body

end LanguageBridge.Frame
