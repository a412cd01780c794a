import DockerBastion.Foundation.QuotedJson
import DockerBastion.Manager.Response

/-!
# The message of an error and the dashboard

`showError` writes the message with the format `%q`, that is as a Go literal, and
`error_callback` of the dashboard reads it with `JSON.parse`.  The main result says
which messages arrive.
-/

namespace DockerBastion

open Foundation

/-- The table behind `unicode.IsPrint`; no control character is in it. -/
structure Printing where
  isPrint : Char → Bool
  isPrint_control : ∀ c : Char, c.toNat < 0x20 → isPrint c = false

def asciiPrinting : Printing where
  isPrint c := decide (0x20 ≤ c.toNat) && decide (c.toNat < 0x7f)
  isPrint_control := by
    intro c h
    have hnot : ¬ 0x20 ≤ c.toNat := by omega
    simp [hnot]

def Foundation.NumErr.error : NumErr → Bytes
  | .syntaxErr => ascii "invalid syntax"
  | .rangeErr => ascii "value out of range"

/-- `Atoi` fails in the name of `ParseInt`, as in Go 1.4. -/
def GoError.error (printing : Printing) : GoError → Bytes
  | .numError num err =>
      ascii "strconv.ParseInt: parsing " ++ quote printing.isPrint num ++ ascii ": " ++
        err.error
  | .errNoRows => ascii "sql: no rows in result set"
  | .errMismatchedHashAndPassword =>
      ascii "crypto/bcrypt: hashedPassword is not the hash of the given password"
  | .errNotFound => ascii "Not found"
  | .other message => message

namespace Manager

variable (printing : Printing)

def messageName : List Char := ['m', 'e', 's', 's', 'a', 'g', 'e']

/-- What `showError` writes with the format `{%q:%q}`. -/
def errorBody (err : GoError) : Bytes :=
  ascii "\x7b" ++ quote printing.isPrint (ascii "message") ++ ascii ":" ++
    quote printing.isPrint (err.error printing) ++ ascii "\x7d"

/-- `data.message` of `error_callback`; `none` if it throws or there is no such member. -/
def errorCallback (responseText : List Char) : Option Json :=
  (Json.parse responseText).bind (Json.member (utf16 messageName))

/-- The body is a JSON text, and the dashboard reads `message` from it. -/
def Recovers (err : GoError) (message : List Char) : Prop :=
  ∃ responseText, decodeUtf8 (errorBody printing err) = some responseText ∧
    (Json.parse responseText).isSome = true ∧
      errorCallback responseText = some (.string (utf16 message))

variable {printing}

theorem decodeUtf8_errorBody {err : GoError} {message : List Char}
    (h : err.error printing = utf8 message) :
    decodeUtf8 (errorBody printing err) =
      some (['\x7b'] ++ quoteText printing.isPrint (utf8 messageName) ++ [':'] ++
        quoteText printing.isPrint (utf8 message) ++ ['\x7d']) := by
  have hname : ascii "message" = utf8 messageName := by decide
  have hopen : ascii "\x7b" = utf8 ['\x7b'] := by decide
  have hcolon : ascii ":" = utf8 [':'] := by decide
  have hclose : ascii "\x7d" = utf8 ['\x7d'] := by decide
  rw [errorBody, h, hname, hopen, hcolon, hclose, quote, quote, ← utf8_append, ← utf8_append,
    ← utf8_append, ← utf8_append]
  exact decodeUtf8_utf8 _

theorem isShared_messageName : messageName.all (Json.isShared printing.isPrint) = true := by
  simp [messageName, Json.isShared]

theorem recovers_of_shared {err : GoError} {message : List Char}
    (h : err.error printing = utf8 message)
    (hshared : ∀ c ∈ message, Json.isShared printing.isPrint c = true) :
    Recovers printing err message := by
  have hparse := Json.parse_quoted printing.isPrint_control messageName message
  rw [isShared_messageName, List.all_eq_true.mpr hshared] at hparse
  refine ⟨_, decodeUtf8_errorBody h, ?_, ?_⟩
  · rw [hparse]
    rfl
  · rw [errorCallback, hparse]
    simp [Json.member]

/-! ## The messages that the program makes itself -/

theorem recovered_of_plain {err : GoError} (s : String) (h : err.error printing = ascii s)
    (hplain : s.toList.all Json.isPlain = true) :
    ∃ message, err.error printing = utf8 message ∧ Recovers printing err message := by
  have herror : err.error printing = utf8 s.toList := h.trans (Json.ascii_eq_utf8 hplain)
  exact ⟨s.toList, herror, recovers_of_shared herror fun c hc =>
    Json.isShared_of_isPlain (List.all_eq_true.mp hplain c hc)⟩

theorem exists_numErr (err : NumErr) :
    ∃ text, err.error = utf8 text ∧ text.all Json.isPlain = true := by
  cases err with
  | syntaxErr =>
      have hplain : "invalid syntax".toList.all Json.isPlain = true := by decide
      exact ⟨_, Json.ascii_eq_utf8 hplain, hplain⟩
  | rangeErr =>
      have hplain : "value out of range".toList.all Json.isPlain = true := by decide
      exact ⟨_, Json.ascii_eq_utf8 hplain, hplain⟩

private theorem recovered_numError (num : Bytes) (err : NumErr) :
    ∃ message, (GoError.numError num err).error printing = utf8 message ∧
      Recovers printing (.numError num err) message := by
  obtain ⟨text, htext, hplain⟩ := exists_numErr err
  have hparsing : "strconv.ParseInt: parsing ".toList.all Json.isPlain = true := by decide
  have hcolon : ": ".toList.all Json.isPlain = true := by decide
  have herror : (GoError.numError num err).error printing =
      utf8 ("strconv.ParseInt: parsing ".toList ++ quoteText printing.isPrint num ++
        ": ".toList ++ text) := by
    rw [utf8_append, utf8_append, utf8_append, ← Json.ascii_eq_utf8 hparsing,
      ← Json.ascii_eq_utf8 hcolon, ← htext]
    rfl
  refine ⟨_, herror, recovers_of_shared herror fun c hc => ?_⟩
  simp only [List.mem_append] at hc
  rcases hc with ((hc | hc) | hc) | hc
  · exact Json.isShared_of_isPlain (List.all_eq_true.mp hparsing c hc)
  · exact Json.isShared_quoteText printing.isPrint_control hc
  · exact Json.isShared_of_isPlain (List.all_eq_true.mp hcolon c hc)
  · exact Json.isShared_of_isPlain (List.all_eq_true.mp hplain c hc)

/--
Only a message that comes from elsewhere can be lost: the texts that the program has
itself arrive, and so does a number that cannot be read, whatever bytes it has.
-/
theorem exists_recovered {err : GoError} (h : ∀ message, err ≠ .other message) :
    ∃ message, err.error printing = utf8 message ∧ Recovers printing err message := by
  cases err with
  | numError num err => exact recovered_numError num err
  | errNoRows => exact recovered_of_plain "sql: no rows in result set" rfl (by decide)
  | errMismatchedHashAndPassword =>
      exact recovered_of_plain
        "crypto/bcrypt: hashedPassword is not the hash of the given password" rfl (by decide)
  | errNotFound => exact recovered_of_plain "Not found" rfl (by decide)
  | other message => exact absurd rfl (h message)

/-- The bell in a number is quoted twice. -/
theorem bell_number_recovered :
    ∃ message, (GoError.numError [49, 7] .syntaxErr).error asciiPrinting = utf8 message ∧
      Recovers asciiPrinting (.numError [49, 7] .syntaxErr) message :=
  exists_recovered (by simp)

/-! ## Which messages arrive -/

/-- A character with an escape of Go only makes the body no JSON text at all. -/
theorem parse_of_foreign {message : List Char} {c : Char} (hc : c ∈ message)
    (hforeign : Json.isShared printing.isPrint c = false) :
    Json.parse (['\x7b'] ++ quoteText printing.isPrint (utf8 messageName) ++ [':'] ++
      quoteText printing.isPrint (utf8 message) ++ ['\x7d']) = none := by
  have hall : message.all (Json.isShared printing.isPrint) = false :=
    List.all_eq_false.mpr ⟨c, hc, by simp [hforeign]⟩
  rw [Json.parse_quoted printing.isPrint_control, hall]
  simp

/--
A message arrives exactly if JSON has the escapes of all its characters: of the control
characters it may have \b, \t, \n, \f and \r, and beyond U+FFFF the printed ones.
-/
theorem recovers_iff (printing : Printing) (err : GoError) (message : List Char)
    (h : err.error printing = utf8 message) :
    Recovers printing err message ↔ ∀ c ∈ message, Json.isShared printing.isPrint c = true := by
  constructor
  · rintro ⟨responseText, htext, hvalid, -⟩ c hc
    rw [decodeUtf8_errorBody h] at htext
    cases htext
    by_contra hforeign
    rw [parse_of_foreign hc (by simpa using hforeign)] at hvalid
    cases hvalid
  · exact recovers_of_shared h

def noRowsMessage : List Char := "sql: no rows in result set".toList

theorem noRows_recovered :
    GoError.errNoRows.error asciiPrinting = utf8 noRowsMessage ∧
      Recovers asciiPrinting .errNoRows noRowsMessage := by
  have htext : GoError.errNoRows.error asciiPrinting = utf8 noRowsMessage := by decide
  have hshared : noRowsMessage.all (Json.isShared asciiPrinting.isPrint) = true := by decide
  exact ⟨htext, (recovers_iff asciiPrinting .errNoRows noRowsMessage htext).mpr
    (List.all_eq_true.mp hshared)⟩

/-- What docker answers to a name with a bell in it. -/
def bellMessage : List Char :=
  ("500 Internal Server Error: Invalid container name (web\x07), " ++
    "only [a-zA-Z0-9][a-zA-Z0-9_.-] are allowed\n").toList

theorem bell_not_recovered : ¬ Recovers asciiPrinting (.other (utf8 bellMessage)) bellMessage := by
  rintro ⟨responseText, htext, hvalid, -⟩
  rw [decodeUtf8_errorBody rfl] at htext
  cases htext
  have hmem : '\x07' ∈ bellMessage := by decide
  rw [parse_of_foreign hmem (by decide)] at hvalid
  cases hvalid

/-! ## What a body gives away -/

theorem error_of_errorBody_eq {err₁ err₂ : GoError}
    (h : errorBody printing err₁ = errorBody printing err₂) :
    err₁.error printing = err₂.error printing := by
  simp only [errorBody, List.append_assoc, List.append_cancel_left_eq] at h
  have hquoted := List.append_cancel_right h
  have htext := utf8_injective hquoted
  exact (quoteText_append_inj (congrArg (· ++ []) htext)).1

private theorem numErr_of_error_eq {err₁ err₂ : NumErr} (h : err₁.error = err₂.error) :
    err₁ = err₂ := by
  have hne : NumErr.syntaxErr.error ≠ NumErr.rangeErr.error := by decide
  cases err₁ <;> cases err₂
  · rfl
  · exact absurd h hne
  · exact absurd h.symm hne
  · rfl

private theorem numError_of_error_eq {num₁ num₂ : Bytes} {err₁ err₂ : NumErr}
    (h : (GoError.numError num₁ err₁).error printing =
      (GoError.numError num₂ err₂).error printing) :
    GoError.numError num₁ err₁ = GoError.numError num₂ err₂ := by
  obtain ⟨text₁, htext₁, -⟩ := exists_numErr err₁
  obtain ⟨text₂, htext₂, -⟩ := exists_numErr err₂
  have hcolon : ascii ": " = utf8 ": ".toList := by decide
  simp only [GoError.error, List.append_assoc, List.append_cancel_left_eq, htext₁, htext₂,
    hcolon, quote, ← utf8_append] at h
  obtain ⟨rfl, hrest⟩ := quoteText_append_inj (utf8_injective h)
  have htext := List.append_cancel_left hrest
  have hnumErr : err₁ = err₂ := numErr_of_error_eq (by rw [htext₁, htext₂, htext])
  rw [hnumErr]

/-- Errors that come from other packages are told apart by the status and the body. -/
theorem eq_of_answer_eq {err₁ err₂ : GoError} (h₁ : err₁ ≠ .errNotFound)
    (h₂ : err₂ ≠ .errNotFound) (hstatus : errorStatus err₁ = errorStatus err₂)
    (hbody : errorBody printing err₁ = errorBody printing err₂) : err₁ = err₂ := by
  have herror := error_of_errorBody_eq hbody
  have hstart : ∀ num err, (GoError.numError num err).error printing ≠
      GoError.errMismatchedHashAndPassword.error printing := by
    intro num err heq
    have hhead := congrArg List.head? heq
    simp [GoError.error, ascii] at hhead
  cases err₁ with
  | numError num₁ numErr₁ =>
      cases err₂ with
      | numError num₂ numErr₂ => exact numError_of_error_eq herror
      | errMismatchedHashAndPassword => exact absurd herror (hstart num₁ numErr₁)
      | _ => cases hstatus
  | errNoRows =>
      cases err₂ with
      | errNoRows => rfl
      | _ => cases hstatus
  | errMismatchedHashAndPassword =>
      cases err₂ with
      | numError num₂ numErr₂ => exact absurd herror.symm (hstart num₂ numErr₂)
      | errMismatchedHashAndPassword => rfl
      | _ => cases hstatus
  | errNotFound => exact absurd rfl h₁
  | other message₁ =>
      cases err₂ with
      | errNotFound => exact absurd rfl h₂
      | other message₂ => exact congrArg GoError.other herror
      | _ => cases hstatus

end Manager

end DockerBastion
