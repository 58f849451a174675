import LanguageBridge.Uri.Domain.Basic
import LanguageBridge.Uri.Percent

set_option autoImplicit false

/-! # Hosts of URIs

A host is an address of version 6 in brackets, or a name. In the schemes of the web and of files
a name is percent-decoded and is the name of a domain, which is written in ASCII; if it ends in a
number it is an address of version 4. In other schemes it is kept as it is, with some characters
percent-encoded. `Host.parse?` and `Host.parseRaw?` give the written form.
-/

namespace LanguageBridge.Uri.Host

/-- The value of digits in a base; `none` if one is no digit of that base. -/
def number? (base : Nat) (digits : List Char) : Option Nat :=
  digits.foldlM (fun n c => do
    let d ← Text.hexValue? c
    if d < base then return n * base + d else none) 0

/-! ## Addresses of version 4 -/

/-- The value of a part of an address: decimal, octal after `0`, hexadecimal after `0x`. -/
def v4Part? (part : List Char) : Option Nat :=
  match part with
  | [] => none
  | '0' :: 'x' :: digits => number? 16 digits
  | '0' :: 'X' :: digits => number? 16 digits
  | ['0'] => some 0
  | '0' :: digits => number? 8 digits
  | digits => number? 10 digits

/-- The parts of a name between dots, without an empty one at the end. -/
def v4Parts (name : List Char) : List (List Char) :=
  let parts := Text.splitAt '.' name
  if parts.length > 1 ∧ parts.getLast? = some [] then parts.dropLast else parts

/-- Whether a name ends in a number, and so has to be an address. -/
def endsInNumber (name : List Char) : Bool :=
  match (v4Parts name).getLast? with
  | some part =>
    (!part.isEmpty && part.all Char.isDigit) ||
      (match part with
        | '0' :: c :: digits =>
          (c = 'x' || c = 'X') && digits.all fun d => (Text.hexValue? d).isSome
        | _ => false)
  | none => false

/-- The written form of the address that a name denotes. -/
def v4? (name : List Char) : Option (List Char) := do
  let parts ← (v4Parts name).mapM v4Part?
  if parts.length > 4 ∨ parts.isEmpty then none
  let lead := parts.dropLast
  let last := parts.getLastD 0
  if lead.any (· > 255) ∨ last ≥ Nat.pow 256 (5 - parts.length) then none
  let value := lead.zipIdx.foldl (fun sum p => sum + p.1 * Nat.pow 256 (3 - p.2)) last
  let bytes := [3, 2, 1, 0].map fun k => toString (value / Nat.pow 256 k % 256)
  return (".".intercalate bytes).toList

/-! ## Addresses of version 6 -/

/-- The sixteen-bit pieces of a part of an address without `::`; an address of version 4 may
stand at the end. -/
def v6Pieces? (text : List Char) : Option (List Nat) :=
  if text.isEmpty then some []
  else
    let parts := Text.splitAt ':' text
    let hex? (part : List Char) : Option Nat :=
      if part.isEmpty ∨ part.length > 4 then none else number? 16 part
    match parts.getLast? with
    | some last =>
      if last.contains '.' then do
        let front ← parts.dropLast.mapM hex?
        let quad := Text.splitAt '.' last
        let bytes ← quad.mapM fun d =>
          if d.isEmpty ∨ (d.length > 1 ∧ d.head? = some '0') then none else number? 10 d
        match bytes with
        | [a, b, c, d] =>
          if bytes.all (· ≤ 255) then some (front ++ [a * 256 + b, c * 256 + d]) else none
        | _ => none
      else parts.mapM hex?
    | none => none

/-- The eight pieces of an address. -/
def v6? (text : List Char) : Option (List Nat) :=
  let rec cut : List Char → List Char → Option (List Char × List Char)
    | ':' :: ':' :: rest, before => some (before.reverse, rest)
    | c :: rest, before => cut rest (c :: before)
    | [], _ => none
  match cut text [] with
  | some (before, after) => do
    let front ← v6Pieces? before
    let back ← v6Pieces? after
    let missing := 8 - (front.length + back.length)
    if before.contains '.' ∨ missing = 0 then none
    return front ++ List.replicate missing 0 ++ back
  | none => do
    let pieces ← v6Pieces? text
    if pieces.length = 8 then return pieces else none

/-- The lengths of the runs of zeros that start at each piece. -/
def zeroRuns : List Nat → List Nat
  | [] => []
  | p :: rest =>
    let runs := zeroRuns rest
    (if p = 0 then runs.headD 0 + 1 else 0) :: runs

/-- The written form of an address: the first longest run of at least two zeros is left out. -/
def writeV6 (pieces : List Nat) : List Char :=
  let runs := zeroRuns pieces
  let longest := runs.foldl max 0
  let hex (ps : List Nat) := List.intercalate [':'] (ps.map (Nat.toDigits 16))
  let body :=
    if longest < 2 then hex pieces
    else
      let start := runs.findIdx (· = longest)
      hex (pieces.take start) ++ [':', ':'] ++ hex (pieces.drop (start + longest))
  '[' :: body ++ [']']

/-- The written form of an address in brackets. -/
def bracketed? (text : List Char) : Option (List Char) :=
  match text with
  | '[' :: rest =>
    if rest.getLast? = some ']' then (v6? rest.dropLast).map writeV6 else none
  | _ => none

/-! ## Names -/

/-- Characters that no name may hold. -/
def isForbidden (c : Char) : Bool :=
  ['\x00', '\t', '\n', '\r', ' ', '#', '/', ':', '<', '>', '?', '@', '[', '\\', ']', '^',
    '|'].contains c

/-- The host of a URI of the web or of a file. -/
def parse? (text : List Char) : Option String :=
  if text.head? = some '[' then (bracketed? text).map String.ofList
  else do
    let decoded ← Text.decode? (Percent.decode text)
    let name ← Domain.ascii? decoded.toList
    if name.isEmpty then none
    else if endsInNumber name then (v4? name).map String.ofList
    else some (String.ofList name)

/-- The host of any other URI; it may be empty. -/
def parseRaw? (text : List Char) : Option String :=
  if text.head? = some '[' then (bracketed? text).map String.ofList
  else if text.any isForbidden then none
  else some (String.ofList (Percent.encodeText Percent.isPrintable text))

end LanguageBridge.Uri.Host
