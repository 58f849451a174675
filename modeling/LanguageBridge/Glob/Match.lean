import LanguageBridge.Glob.Token
import LanguageBridge.Text.Bytes

set_option autoImplicit false

/-! # Matching a path against a glob

A glob matches a path as a whole, byte by byte. The matcher works from the end of the glob to
its start. It keeps, for every place in the path from its start to its end, whether the part of
the glob read so far matches from there to the end of the path: one truth value per place, a
`Places`. Each token turns the places for what follows it into the places for itself and what
follows, so the work is the size of the glob times the length of the path.
-/

namespace LanguageBridge.Glob

/-- One truth value for each place in a path, from before its first byte to after its last. -/
abbrev Places := List Bool

/-- The places of a path at which only its end counts. -/
def atEnd (path : Bytes) : Places := path.map (fun _ => false) ++ [true]

/-- The truth value for the first place. -/
def first (after : Places) : Bool := after.headD false

/-! ## What single tokens do -/

/-- One byte that satisfies `p`, then `after`. -/
def oneByte (p : UInt8 → Bool) : Bytes → Places → Places
  | b :: path, _ :: after => (p b && first after) :: oneByte p path after
  | _, after => after.map fun _ => false

/-- Any bytes, then `after`. -/
def anyThen : Places → Places
  | [] => []
  | here :: after =>
    let later := anyThen after
    (here || first later) :: later

/-- Either of two. -/
def either (a b : Places) : Places := List.zipWith (· || ·) a b

/-- The separator of path components. -/
def slash : UInt8 := 0x2F

/-- A separator, then `after`. -/
def slashThen (path : Bytes) (after : Places) : Places := oneByte (· == slash) path after

/-- The given bytes, then `after`. -/
def bytesThen (path : Bytes) (bytes : Bytes) (after : Places) : Places :=
  bytes.foldr (fun b places => oneByte (· == b) path places) after

/-! ## Classes

A class holds bytes. A single character contributes all bytes of its UTF-8 form; a range of
characters contributes the bytes of both ends and the range from the last byte of the first to
the first byte of the last. -/

/-- The ranges of bytes that a range of characters contributes. -/
def byteRanges (range : Char × Char) : List (UInt8 × UInt8) :=
  let first := String.utf8EncodeChar range.1
  let last := String.utf8EncodeChar range.2
  if range.1 = range.2 then first.map fun b => (b, b)
  else
    first.dropLast.map (fun b => (b, b))
      ++ [(first.getLastD 0, last.headD 0)]
      ++ last.tail.map (fun b => (b, b))

/-- Whether a byte is in a class. -/
def inClass (negated : Bool) (ranges : List (Char × Char)) (b : UInt8) : Bool :=
  (ranges.flatMap byteRanges).any (fun r => r.1 ≤ b && b ≤ r.2) != negated

/-! ## Empty alternatives

An alternative with nothing in it is no alternative. -/

mutual

/-- Whether a token stands for nothing at all. -/
def isVoid : GlobToken → Bool
  | .oneOf branches => allVoid branches
  | _ => false

/-- Whether a glob stands for nothing at all. -/
def isVoidGlob : List GlobToken → Bool
  | [] => true
  | t :: rest => isVoid t && isVoidGlob rest

/-- Whether all of several globs stand for nothing at all. -/
def allVoid : List (List GlobToken) → Bool
  | [] => true
  | g :: rest => isVoidGlob g && allVoid rest

end

/-! ## Whole globs -/

mutual

/-- A token, then `after`. -/
def tokenThen (path : Bytes) : GlobToken → Places → Places
  | .literal c, after => bytesThen path (String.utf8EncodeChar c) after
  | .anyByte, after => oneByte (fun _ => true) path after
  | .anyBytes, after => anyThen after
  | .anyAbove, after => either after (anyThen (slashThen path after))
  | .anyBelow, after => slashThen path (anyThen after)
  | .anyBetween, after => slashThen path (either after (anyThen (slashThen path after)))
  | .byteClass negated ranges, after => oneByte (inClass negated ranges) path after
  | .oneOf branches, after =>
    if allVoid branches then after else branchesThen path branches after

/-- All tokens of a glob, then `after`. -/
def globThen (path : Bytes) : List GlobToken → Places → Places
  | [], after => after
  | t :: rest, after => tokenThen path t (globThen path rest after)

/-- One of several globs, empty ones excepted, then `after`. -/
def branchesThen (path : Bytes) : List (List GlobToken) → Places → Places
  | [], after => after.map fun _ => false
  | g :: rest, after =>
    if isVoidGlob g then branchesThen path rest after
    else either (globThen path g after) (branchesThen path rest after)

end

/-- Whether the glob that consists of `tokens` matches the whole of `path`. A glob that is
nothing but `**` matches every path. -/
def isMatch (tokens : Glob) (path : Bytes) : Bool :=
  match tokens with
  | [.anyAbove] => true
  | tokens => first (globThen path tokens (atEnd path))

end LanguageBridge.Glob
