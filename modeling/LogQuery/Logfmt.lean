import LogQuery.Record.Basic

/-!
# Logfmt

Lines of `key=value` pairs. A value stands bare up to the next blank, or in
quotes with a backslash before what needs one; inside a bare value quotes and
equals signs have no meaning. The blanks of this format are the space and the
tab.

The writer quotes whatever the reader of pairs could take for something else,
the empty value included, so that one reads every value back. But a line is
trimmed before, and more is trimmed than is quoted. A key is written as it is
and is read back if it is one that a reader would find: not empty, without
blanks and without an equals sign.

## Main definitions

* `Logfmt.pair`: The written form of a pair.
* `Logfmt.record`: The written form of a record.
* `Logfmt.read`: Reads the pairs of a line.
* `Logfmt.Fault`: Why a line is not of this format.
-/

namespace LogQuery

namespace Logfmt

/-! ### Writing -/

/-- Whether a character forces quotes around a value. -/
def needsQuotes (c : Char) : Bool :=
  c == ' ' || c == '\t' || c == '\n' || c == '\r' || c == '"' || c == '=' || c == '\\'

/-- What a character becomes in quotes. -/
def escape (c : Char) : List Char :=
  if c = '"' then ['\\', '"']
  else if c = '\\' then ['\\', '\\']
  else if c = '\n' then ['\\', 'n']
  else if c = '\t' then ['\\', 't']
  else if c = '\r' then ['\\', 'r']
  else [c]

/-- The written form of a value. -/
def valueChars (value : List Char) : List Char :=
  if value.isEmpty || value.any needsQuotes then '"' :: (value.flatMap escape ++ ['"'])
  else value

/-- The written form of a pair. -/
def pair (key value : String) : String :=
  String.ofList (key.toList ++ '=' :: valueChars value.toList)

/-- The written form of fields, in their order. -/
def fields (b : Bindings Value) : String :=
  " ".intercalate (b.entries.map fun entry => pair entry.1 entry.2.text)

/-- The written form of a record: its line, or else its fields. -/
def record (r : LogRecord) : String := r.text.getD (fields r.fields)

/-! ### Reading -/

/-- Why a line is not of this format. -/
inductive Fault where
  /-- A blank comes before the equals sign. -/
  | missingEquals (key : String)
  | emptyKey
  /-- The line ends before the equals sign. -/
  | endInKey (key : String)
  | unclosedQuote (key : String)
deriving DecidableEq, Repr

def Fault.message : Fault → String
  | missingEquals key => "Key '" ++ key ++ "' is missing '='"
  | emptyKey => "Empty key found"
  | endInKey key => "Expected '=' after key '" ++ key ++ "'"
  | unclosedQuote key => "Unclosed quote in value of '" ++ key ++ "'"

/-- Whether a character separates pairs. -/
def isSeparator (c : Char) : Bool := c == ' ' || c == '\t'

/-- Whether a character belongs to a key. -/
def isKeyChar (c : Char) : Bool := !(isSeparator c || c == '=')

/-- Reads a key and the equals sign behind it. -/
def readKey (cs : List Char) : Except Fault (String × List Char) :=
  let key := String.ofList (cs.takeWhile isKeyChar)
  match cs.dropWhile isKeyChar with
  | '=' :: rest => if key = "" then .error .emptyKey else .ok (key, rest)
  | [] => .error (if key = "" then .emptyKey else .endInKey key)
  | _ => .error (.missingEquals key)

/-- What a character means behind a backslash. -/
def unescape (c : Char) : Char :=
  if c = 'n' then '\n' else if c = 't' then '\t' else if c = 'r' then '\r' else c

/-- Reads a value behind its opening quote, up to and with the closing one.
    The characters read so far come in reverse. -/
def readQuoted (before : List Char) : List Char → Option (List Char × List Char)
  | [] => none
  | '"' :: rest => some (before.reverse, rest)
  | ['\\'] => none
  | '\\' :: c :: rest => readQuoted (unescape c :: before) rest
  | c :: rest => readQuoted (c :: before) rest

/-- What is left behind a quoted value is shorter. -/
theorem length_of_readQuoted {before cs value rest : List Char}
    (h : readQuoted before cs = some (value, rest)) : rest.length < cs.length := by
  fun_induction readQuoted before cs with
  | case1 | case3 => simp at h
  | case2 => simp only [Option.some.injEq, Prod.mk.injEq] at h; simp [← h.2]
  | case4 _ c tail ih => have := ih h; simp only [List.length_cons]; omega
  | case5 _ c tail _ _ _ ih => have := ih h; simp only [List.length_cons]; omega

/-- Reads a value, bare or in quotes. -/
def readValue (cs : List Char) : Option (List Char × List Char) :=
  match cs with
  | '"' :: rest => readQuoted [] rest
  | _ => some (cs.takeWhile (fun c => !isSeparator c), cs.dropWhile (fun c => !isSeparator c))

theorem length_of_dropWhile {p : Char → Bool} {cs rest : List Char}
    (h : cs.dropWhile p = rest) : rest.length ≤ cs.length := by
  have := congrArg List.length (List.takeWhile_append_dropWhile (p := p) (l := cs))
  rw [h] at this
  simp only [List.length_append] at this
  omega

/-- What is left behind a value is not longer. -/
theorem length_of_readValue {cs value rest : List Char}
    (h : readValue cs = some (value, rest)) : rest.length ≤ cs.length := by
  unfold readValue at h
  split at h
  · have := length_of_readQuoted h
    simp only [List.length_cons]
    omega
  · simp only [Option.some.injEq, Prod.mk.injEq] at h
    exact length_of_dropWhile h.2

/-- What is left behind a key is shorter. -/
theorem length_of_readKey {cs rest : List Char} {key : String}
    (h : readKey cs = .ok (key, rest)) : rest.length < cs.length := by
  simp only [readKey] at h
  split at h
  · next tail hd =>
    have := length_of_dropWhile hd
    split at h
    · simp at h
    · simp only [Except.ok.injEq, Prod.mk.injEq] at h
      rw [← h.2]
      simp only [List.length_cons] at this
      omega
  · simp at h
  · simp at h

/-- Reads a key, the equals sign and a value. -/
def readPair (cs : List Char) : Except Fault ((String × String) × List Char) :=
  match readKey cs with
  | .error fault => .error fault
  | .ok (key, rest) =>
    match readValue rest with
    | none => .error (.unclosedQuote key)
    | some (value, rest) => .ok ((key, String.ofList value), rest)

/-- What is left behind a pair is shorter. -/
theorem length_of_readPair {cs rest : List Char} {p : String × String}
    (h : readPair cs = .ok (p, rest)) : rest.length < cs.length := by
  unfold readPair at h
  split at h
  · simp at h
  · next key tail hk =>
    split at h
    · simp at h
    · next value rest' hv =>
      simp only [Except.ok.injEq, Prod.mk.injEq] at h
      have h₁ := length_of_readKey hk
      have h₂ := length_of_readValue hv
      rw [← h.2]
      omega

/-- Reads the pairs that are left of a line. The pairs read so far come in
    reverse. -/
def readPairs (before : List (String × String)) (cs : List Char) :
    Except Fault (List (String × String)) :=
  match _hc : cs.dropWhile isSeparator with
  | [] => .ok before.reverse
  | c :: rest =>
    match _hp : readPair (c :: rest) with
    | .error fault => .error fault
    | .ok (p, left) => readPairs (p :: before) left
termination_by cs.length
decreasing_by
  have h₁ := length_of_dropWhile _hc
  have h₂ := length_of_readPair _hp
  omega

/-- Reads the pairs of a line. -/
def read (line : List Char) : Except Fault (List (String × String)) := readPairs [] line

end Logfmt

end LogQuery
