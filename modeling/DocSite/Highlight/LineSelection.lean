/-
  DocSite.Highlight.LineSelection

  The lines of a code block that are to stand out, written as a directive such
  as `{1-3,5}`. Ranges expand upwards, tokens keep the order in which they are
  written, and repetitions stay.
-/
import DocSite.Text.Blank
import DocSite.Text.Decimal
import DocSite.Text.Split

namespace DocSite

open DocSite.Text

/-! ## Directives that cannot be read -/

/-- What is wrong with a token of a directive. -/
inductive DirectiveFault where
  | emptyToken
  | rangeStart (token : String)
  | rangeEnd (token : String)
  | descending (token : String)
  | lineNumber (token : String)
  deriving Repr, DecidableEq

/-- The fault in words. -/
def DirectiveFault.reason : DirectiveFault → String
  | emptyToken => "empty token"
  | rangeStart token => "invalid range start in '" ++ token ++ "'"
  | rangeEnd token => "invalid range end in '" ++ token ++ "'"
  | descending token => "descending range '" ++ token ++ "'"
  | lineNumber token => "invalid line number '" ++ token ++ "'"

/-- A directive that selects no lines because one of its tokens is at fault. -/
structure MalformedDirective where
  /-- The directive as its author wrote it. -/
  directive : String
  fault : DirectiveFault
  deriving Repr, DecidableEq

/-- The error in words. -/
def MalformedDirective.message (e : MalformedDirective) : String :=
  "Malformed highlight directive '" ++ e.directive ++ "': " ++ e.fault.reason

/-! ## Selections -/

/-- Line numbers, counted from one, in the order of the directive. -/
structure LineSelection where
  numbers : List Nat
  deriving Repr, DecidableEq

namespace LineSelection

/-- The selection of no lines. -/
def empty : LineSelection := ⟨[]⟩

/-- Whether a line is selected. -/
def contains (s : LineSelection) (line : Nat) : Bool := s.numbers.contains line

/-- Whether no line is selected. -/
def isEmpty (s : LineSelection) : Bool := s.numbers.isEmpty

/-- The line numbers in decimal, separated by single spaces. -/
def text (s : LineSelection) : String :=
  String.ofList ([' '].intercalate (s.numbers.map decimal))

/-! ## Reading a directive -/

/-- A line number is a positive number below 2 ^ 32, in ASCII digits. -/
def readLineNumber? (s : List Char) : Option Nat :=
  (readDecimal? s).filter fun n => 0 < n && n < 0x100000000

/-- The lines of a range, given the token and the texts around its dash. -/
def readRange (token first last : List Char) : Except DirectiveFault (List Nat) :=
  match readLineNumber? (trim first), readLineNumber? (trim last) with
  | none, _ => .error (.rangeStart (String.ofList token))
  | some _, none => .error (.rangeEnd (String.ofList token))
  | some a, some b =>
    -- Both ends are read before they are compared.
    if b < a then .error (.descending (String.ofList token)) else .ok (List.range' a (b + 1 - a))

/-- The lines of a token: a single number or a range. -/
def readToken (token : List Char) : Except DirectiveFault (List Nat) :=
  if token.isEmpty then .error .emptyToken
  else
    match splitOnce '-' token with
    | some (first, last) => readRange token first last
    | none =>
      match readLineNumber? token with
      | some n => .ok [n]
      | none => .error (.lineNumber (String.ofList token))

/-- The text of a directive without its braces, each of which is optional. -/
def directiveBody (s : List Char) : List Char :=
  let s := trim s
  let s := (dropPrefix? ['{'] s).getD s
  trim ((dropSuffix? ['}'] s).getD s)

/-- The lines of all tokens, up to the first token at fault. -/
def readTokens : List (List Char) → Except DirectiveFault (List Nat)
  | [] => .ok []
  | token :: rest => do
    let here ← readToken (trim token)
    let later ← readTokens rest
    return here ++ later

/-- Reads a directive. An absent or empty one selects nothing. -/
def parse : Option String → Except MalformedDirective LineSelection
  | none => .ok empty
  | some directive =>
    let body := directiveBody directive.toList
    if body.isEmpty then .ok empty
    else
      match readTokens (body.splitOn ',') with
      | .ok numbers => .ok ⟨numbers⟩
      | .error fault => .error ⟨directive, fault⟩

end LineSelection

end DocSite
