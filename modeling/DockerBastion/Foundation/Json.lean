import DockerBastion.Foundation.Text

/-!
# JSON texts

`parse` is JSON.parse: it accepts exactly the texts of the JSON grammar.  It reads in
two passes, each with one step for what comes next and a failure as `none`: characters
into tokens, and tokens into a value, the containers that are open being kept in a list
of frames.  Strings are sequences of UTF-16 code units, as in JavaScript.
-/

namespace DockerBastion.Foundation

abbrev Units := List UInt16

def utf16Char (c : Char) : Units :=
  if c.toNat < 0x10000 then [UInt16.ofNat c.toNat]
  else
    [UInt16.ofNat (0xd800 + (c.toNat - 0x10000) / 0x400),
     UInt16.ofNat (0xdc00 + (c.toNat - 0x10000) % 0x400)]

def utf16 (text : List Char) : Units := text.flatMap utf16Char

/-- A number is kept as it is written, an object with its members in their order. -/
inductive Json where
  | null
  | bool (b : Bool)
  | number (literal : List Char)
  | string (value : Units)
  | array (items : List Json)
  | object (members : List (Units × Json))

namespace Json

/-! ## Characters into tokens -/

inductive Token where
  | openBrace
  | closeBrace
  | openBracket
  | closeBracket
  | colon
  | comma
  | scalar (v : Json)
  | string (value : Units)

def punctuation : List (Char × Token) :=
  [('\x7b', .openBrace), ('\x7d', .closeBrace), ('[', .openBracket), (']', .closeBracket),
   (':', .colon), (',', .comma)]

def escapes : List (Char × Char) :=
  [('\x22', '\x22'), ('\\', '\\'), ('/', '/'), ('b', '\x08'), ('f', '\x0c'), ('n', '\n'),
   ('r', '\r'), ('t', '\t')]

/-- What the last character of an unfinished number was. -/
inductive NumberPart where
  | minus
  | zero
  | int
  | point
  | fraction
  | exponent
  | sign
  | digits

namespace NumberPart

def afterInt (c : Char) : Option NumberPart :=
  if c = '.' then some .point
  else if c = 'e' ∨ c = 'E' then some .exponent
  else none

def next (part : NumberPart) (c : Char) : Option NumberPart :=
  match part with
  | .minus => if c = '0' then some .zero else if c.isDigit then some .int else none
  | .zero => afterInt c
  | .int => if c.isDigit then some .int else afterInt c
  | .point => if c.isDigit then some .fraction else none
  | .fraction =>
      if c.isDigit then some .fraction
      else if c = 'e' ∨ c = 'E' then some .exponent
      else none
  | .exponent =>
      if c = '+' ∨ c = '-' then some .sign else if c.isDigit then some .digits else none
  | .sign | .digits => if c.isDigit then some .digits else none

def ends : NumberPart → Bool
  | .zero | .int | .fraction | .digits => true
  | .minus | .point | .exponent | .sign => false

end NumberPart

inductive Mode where
  | between
  | word (rest : List Char) (v : Json)
  | number (part : NumberPart) (literal : List Char)
  | string (value : Units)
  | escape (value : Units)
  | unicode (value : Units) (left : Nat) (unit : Nat)

structure Lexer where
  tokens : List Token
  mode : Mode

def startToken (tokens : List Token) (c : Char) : Option Lexer :=
  if c = ' ' ∨ c = '\t' ∨ c = '\n' ∨ c = '\r' then some ⟨tokens, .between⟩
  else if c = '\x22' then some ⟨tokens, .string []⟩
  else if c = '-' then some ⟨tokens, .number .minus [c]⟩
  else if c = '0' then some ⟨tokens, .number .zero [c]⟩
  else if c.isDigit then some ⟨tokens, .number .int [c]⟩
  else if c = 't' then some ⟨tokens, .word ['r', 'u', 'e'] (.bool true)⟩
  else if c = 'f' then some ⟨tokens, .word ['a', 'l', 's', 'e'] (.bool false)⟩
  else if c = 'n' then some ⟨tokens, .word ['u', 'l', 'l'] .null⟩
  else (punctuation.lookup c).map fun token => ⟨tokens ++ [token], .between⟩

def lexStep (l : Lexer) (c : Char) : Option Lexer :=
  match l.mode with
  | .between => startToken l.tokens c
  | .word [] _ => none
  | .word [last] v => if c = last then some ⟨l.tokens ++ [.scalar v], .between⟩ else none
  | .word (next :: rest) v => if c = next then some ⟨l.tokens, .word rest v⟩ else none
  | .number part literal =>
      match part.next c with
      | some part => some ⟨l.tokens, .number part (literal ++ [c])⟩
      | none =>
          if part.ends then startToken (l.tokens ++ [.scalar (.number literal)]) c else none
  | .string value =>
      if c = '\x22' then some ⟨l.tokens ++ [.string value], .between⟩
      else if c = '\\' then some ⟨l.tokens, .escape value⟩
      else if c.toNat < 0x20 then none
      else some ⟨l.tokens, .string (value ++ utf16Char c)⟩
  | .escape value =>
      if c = 'u' then some ⟨l.tokens, .unicode value 4 0⟩
      else
        (escapes.lookup c).map fun d => ⟨l.tokens, .string (value ++ utf16Char d)⟩
  | .unicode value left unit =>
      (hexValue c).map fun d =>
        if left = 1 then ⟨l.tokens, .string (value ++ [UInt16.ofNat (16 * unit + d)])⟩
        else ⟨l.tokens, .unicode value (left - 1) (16 * unit + d)⟩

def Lexer.finish (l : Lexer) : Option (List Token) :=
  match l.mode with
  | .between => some l.tokens
  | .number part literal =>
      if part.ends then some (l.tokens ++ [.scalar (.number literal)]) else none
  | _ => none

def lex (text : List Char) : Option (List Token) :=
  (text.foldlM lexStep ⟨[], .between⟩).bind Lexer.finish

/-! ## Tokens into a value -/

inductive Frame where
  | array (items : List Json)
  | object (members : List (Units × Json)) (name : Units)

/-- What has been read; the constructor says what must come next. -/
inductive Parser where
  | value (frames : List Frame)
  | firstItem (frames : List Frame)
  | firstName (frames : List Frame)
  | name (members : List (Units × Json)) (frames : List Frame)
  | colon (members : List (Units × Json)) (name : Units) (frames : List Frame)
  | after (v : Json) (frames : List Frame)

def startValue (frames : List Frame) : Token → Option Parser
  | .scalar v => some (.after v frames)
  | .string value => some (.after (.string value) frames)
  | .openBracket => some (.firstItem frames)
  | .openBrace => some (.firstName frames)
  | _ => none

def parseStep : Parser → Token → Option Parser
  | .value frames, token => startValue frames token
  | .firstItem frames, .closeBracket => some (.after (.array []) frames)
  | .firstItem frames, token => startValue (.array [] :: frames) token
  | .firstName frames, .closeBrace => some (.after (.object []) frames)
  | .firstName frames, .string name => some (.colon [] name frames)
  | .name members frames, .string name => some (.colon members name frames)
  | .colon members name frames, .colon => some (.value (.object members name :: frames))
  | .after v (.array items :: frames), .comma =>
      some (.value (.array (items ++ [v]) :: frames))
  | .after v (.array items :: frames), .closeBracket =>
      some (.after (.array (items ++ [v])) frames)
  | .after v (.object members name :: frames), .comma =>
      some (.name (members ++ [(name, v)]) frames)
  | .after v (.object members name :: frames), .closeBrace =>
      some (.after (.object (members ++ [(name, v)])) frames)
  | _, _ => none

def Parser.finish : Parser → Option Json
  | .after v [] => some v
  | _ => none

/-- `JSON.parse`, `none` where it throws. -/
def parse (text : List Char) : Option Json :=
  (lex text).bind fun tokens =>
    (tokens.foldlM parseStep (.value [])).bind Parser.finish

/-- The property `name`, `none` where it is undefined; the last member of a name counts. -/
def member (name : Units) : Json → Option Json
  | .object members => members.reverse.lookup name
  | _ => none

/-! ## Reading a string -/

variable {tokens : List Token} {value : Units}

theorem lexStep_raw {c : Char} (hmark : c ≠ '\x22') (hbackslash : c ≠ '\\')
    (hcontrol : 0x20 ≤ c.toNat) :
    lexStep ⟨tokens, .string value⟩ c = some ⟨tokens, .string (value ++ utf16Char c)⟩ := by
  have hnot : ¬ c.toNat < 0x20 := by omega
  simp [lexStep, hmark, hbackslash, hnot]

theorem lexStep_backslash :
    lexStep ⟨tokens, .string value⟩ '\\' = some ⟨tokens, .escape value⟩ := rfl

theorem lexStep_escape {kind : Char} (h : kind ≠ 'u') :
    lexStep ⟨tokens, .escape value⟩ kind =
      (escapes.lookup kind).map fun d => ⟨tokens, .string (value ++ utf16Char d)⟩ := by
  simp [lexStep, h]

theorem foldlM_hexDigits (k unit n : Nat) :
    (hexDigits (k + 1) n).foldlM lexStep ⟨tokens, .unicode value (k + 1) unit⟩ =
      some ⟨tokens, .string
        (value ++ [UInt16.ofNat (16 ^ (k + 1) * unit + n % 16 ^ (k + 1))])⟩ := by
  induction k generalizing unit with
  | zero =>
      have hdigit : n % 16 < 16 := Nat.mod_lt _ (by decide)
      simp [hexDigits, lexStep, hexValue_digitChar hdigit]
  | succ k ih =>
      have hdigit : n / 16 ^ (k + 1) % 16 < 16 := Nat.mod_lt _ (by decide)
      have hstep : lexStep ⟨tokens, .unicode value (k + 2) unit⟩
          (n / 16 ^ (k + 1) % 16).digitChar =
          some ⟨tokens, .unicode value (k + 1) (16 * unit + n / 16 ^ (k + 1) % 16)⟩ := by
        simp [lexStep, hexValue_digitChar hdigit]
      have hunit : 16 ^ (k + 1) * (16 * unit + n / 16 ^ (k + 1) % 16) + n % 16 ^ (k + 1) =
          16 ^ (k + 2) * unit + n % 16 ^ (k + 2) := by
        rw [Nat.mod_pow_succ (k := k + 1), pow_succ 16 (k + 1)]
        ring
      rw [hexDigits, List.foldlM_cons, hstep, ← hunit]
      exact ih _

end Json

end DockerBastion.Foundation
