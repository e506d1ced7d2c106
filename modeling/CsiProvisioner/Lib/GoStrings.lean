import Mathlib.Data.List.Basic
import Mathlib.Data.List.Sort
import Mathlib.Data.String.Basic
import Mathlib.Control.Basic
import Mathlib.Data.Nat.Init

/-!
String functions of the Go standard library (Go 1.20) and of `k8s.io/apimachinery` that the
provisioner's messages and templates go through, and the parsing and hashing of names.

`os.Expand` replaces `${var}` and `$var` in a string by the values a mapping gives for the
names.

Go scans the bytes of the string. The characters that drive the scan (`$`, `{`, `}`, the
special variables and the ASCII letters and digits) are ASCII, and no byte of a multi-byte
UTF-8 sequence is ASCII, so scanning the characters instead gives the same result.

The mapping runs in a monad, so that a caller can observe which names were looked up, as
`resolveTemplate` does through the closure it passes.
-/

namespace Go

/-- `isShellSpecialVar`: the character names a special shell variable such as `$*`. -/
def isShellSpecialVar (c : Char) : Bool :=
  c ∈ ['*', '#', '$', '@', '!', '?', '-', '0', '1', '2', '3', '4', '5', '6', '7', '8', '9']

/-- `isAlphaNum`: an ASCII letter, digit or underscore. -/
def isAlphaNum (c : Char) : Bool :=
  c == '_' || ('0' ≤ c && c ≤ '9') || ('a' ≤ c && c ≤ 'z') || ('A' ≤ c && c ≤ 'Z')

/-- The text of `${...}` up to the first closing brace: the name and the characters the
expansion takes; `("", 2)` for `${}` and `("", 1)` when no brace closes. -/
def scanBraced (rest : List Char) : String × Nat :=
  match rest.idxOf? '}' with
  | none => ("", 1)
  | some 0 => ("", 2)
  | some j => (String.ofList (rest.take j), j + 2)

/-- `getShellName`: the name that begins `s` (which is not empty) and the number of
characters taken to extract it. -/
def getShellName : List Char → String × Nat
  | '{' :: rest =>
    match rest with
    | c :: '}' :: _ => if isShellSpecialVar c then (String.ofList [c], 3) else scanBraced rest
    | _ => scanBraced rest
  | c :: rest =>
    if isShellSpecialVar c then (String.ofList [c], 1)
    else
      let name := (c :: rest).takeWhile isAlphaNum
      (String.ofList name, name.length)
  | [] => ("", 0)

variable {m : Type → Type} [Monad m]

/-- The loop of `os.Expand(s, mapping)` on the characters of `s`, with a bound `n` on the
rounds left: every round takes the character it stands on, so `s.length` rounds suffice.
A `$` followed by invalid syntax is dropped together with what `getShellName` took, a `$`
not followed by a name stays, and a `$` at the end stays. -/
def expandAux (mapping : String → m String) : Nat → List Char → m (List Char)
  | 0, _ => pure []
  | _ + 1, [] => pure []
  | n + 1, c :: rest =>
    if c = '$' ∧ rest ≠ [] then
      let (name, w) := getShellName rest
      if name = "" ∧ 0 < w then expandAux mapping n (rest.drop w)
      else if name = "" then (fun r => '$' :: r) <$> expandAux mapping n rest
      else do
        let v ← mapping name
        (fun r => v.toList ++ r) <$> expandAux mapping n (rest.drop w)
    else (fun r => c :: r) <$> expandAux mapping n rest

/-- `os.Expand(s, mapping)`. -/
def expand (mapping : String → m String) (s : List Char) : m (List Char) :=
  expandAux mapping s.length s

lemma expandAux_succ (mapping : String → m String) {n : Nat} {s : List Char}
    (h : s.length ≤ n) : expandAux mapping (n + 1) s = expandAux mapping n s := by
  induction n generalizing s with
  | zero =>
    rw [List.length_eq_zero_iff.mp (Nat.le_zero.mp h)]
    rfl
  | succ k ih =>
    cases s with
    | nil => rfl
    | cons c rest =>
      -- a round recurses on what follows its first character, shorter than `k + 1`
      have hrest : rest.length ≤ k := by simpa using h
      have hdrop : ∀ w, expandAux mapping (k + 1) (rest.drop w) =
          expandAux mapping k (rest.drop w) :=
        fun w => ih (Nat.le_trans (by simp) hrest)
      simp only [expandAux, ih hrest, hdrop]

lemma expandAux_eq_expand (mapping : String → m String) {n : Nat} {s : List Char}
    (h : s.length ≤ n) : expandAux mapping n s = expand mapping s := by
  induction n, h using Nat.le_induction with
  | base => rfl
  | succ k hk ih => rw [expandAux_succ mapping hk, ih]

/-- `strings.HasPrefix(s, pre)`. A prefix of the bytes of a UTF-8 string that is itself UTF-8
is a prefix of its characters, so the characters are compared. -/
def hasPrefix (s pre : String) : Bool := pre.toList.isPrefixOf s.toList

/-- One character as `strconv.Quote` writes it: the quote and the backslash escaped, the
named control characters as their escapes, other ASCII control characters as `\xHH`.
Other characters stand for themselves. -/
def quoteChar (c : Char) : List Char :=
  if c = '"' then ['\\', '"']
  else if c = '\\' then ['\\', '\\']
  else if c = '\n' then ['\\', 'n']
  else if c = '\t' then ['\\', 't']
  else if c = '\r' then ['\\', 'r']
  else if c.toNat < 32 ∨ c.toNat = 127 then
    let hex := Nat.toDigits 16 c.toNat
    ['\\', 'x'] ++ List.replicate (2 - hex.length) '0' ++ hex
  else [c]

/-- `fmt.Sprintf("%q", s)`. -/
def quote (s : String) : String :=
  String.ofList ('"' :: s.toList.flatMap quoteChar ++ ['"'])

/-- `fmt.Sprintf("%q", l)` for a slice of strings: the quoted elements between brackets,
separated by blanks. -/
def quoteList (l : List String) : String :=
  "[" ++ " ".intercalate (l.map quote) ++ "]"

/-- `sets.String.List`: the elements of a set of strings (held as a list that may repeat
them) in increasing order. -/
def sortedSet (l : List String) : List String :=
  l.dedup.mergeSort (fun a b => decide (a ≤ b))

/-- `sort.Strings`: the strings in increasing order of their bytes. -/
def sortStrings (l : List String) : List String := l.insertionSort (· ≤ ·)

lemma sortStrings_sorted (l : List String) : (sortStrings l).Pairwise (· ≤ ·) :=
  List.pairwise_insertionSort _ l

lemma sortStrings_perm (l : List String) : (sortStrings l).Perm l :=
  List.perm_insertionSort _ l

/-- `fmt.Sprintf("%v", l)` for a slice of strings: the elements between brackets, separated
by blanks. -/
def formatStrings (l : List String) : String := "[" ++ " ".intercalate l ++ "]"

/-! ### Joining and splitting -/

lemma append_cons_inj_of_not_mem {α : Type} [DecidableEq α] {c : α} {a a' b b' : List α}
    (ha : c ∉ a) (ha' : c ∉ a') (h : a ++ c :: b = a' ++ c :: b') : a = a' ∧ b = b' := by
  have hfirst : ∀ {x : List α}, c ∉ x → ∀ y,
      (x ++ c :: y).splitOn c = x :: y.splitOn c := by
    intro x hx y
    refine List.splitOnP_append_cons_of_forall_mem (fun z hz => ?_) c (by simp) y
    simpa using ne_of_mem_of_not_mem hz hx
  have hsplit := congrArg (List.splitOn c) h
  rw [hfirst ha, hfirst ha'] at hsplit
  obtain ⟨rfl, -⟩ := List.cons.inj hsplit
  exact ⟨rfl, (List.cons.inj (List.append_cancel_left h)).2⟩

lemma not_mem_of_mem_splitOn {α : Type} [DecidableEq α] (sep : α) (l : List α) :
    ∀ part ∈ l.splitOn sep, sep ∉ part := by
  induction l with
  | nil => simp
  | cons x xs ih =>
    rw [List.splitOn_cons_eq_if_modifyHead]
    split_ifs with hx
    · intro part hpart
      rcases List.mem_cons.mp hpart with rfl | hpart
      · simp
      · exact ih part hpart
    · -- the element joins the first part of the rest
      obtain ⟨hd, tl, heq⟩ := List.exists_cons_of_ne_nil (List.splitOn_ne_nil sep xs)
      rw [heq] at ih ⊢
      intro part hpart
      rcases List.mem_cons.mp hpart with rfl | hpart
      · have hxs : x ≠ sep := by simpa using hx
        simpa [hxs.symm] using ih hd List.mem_cons_self
      · exact ih part (List.mem_cons_of_mem _ hpart)

lemma intercalate_inj {sep : Char} {l l' : List String}
    (h : ∀ s ∈ l, s ≠ "" ∧ sep ∉ s.toList)
    (h' : ∀ s ∈ l', s ≠ "" ∧ sep ∉ s.toList)
    (heq : (String.singleton sep).intercalate l = (String.singleton sep).intercalate l') :
    l = l' := by
  -- `strings.Split` gives the parts back, and only the empty slice gives one empty part
  have hsplit : ∀ {l : List String}, (∀ s ∈ l, s ≠ "" ∧ sep ∉ s.toList) →
      ((String.singleton sep).intercalate l).toList.splitOn sep =
        if l = [] then [[]] else l.map String.toList := by
    intro l hl
    split_ifs with hnil
    · subst hnil
      rfl
    · rw [String.toList_intercalate, String.toList_singleton]
      exact List.splitOn_intercalate sep (by simpa using fun s hs => (hl s hs).2)
        (by simpa using hnil)
  have hparts : ∀ {l : List String}, (∀ s ∈ l, s ≠ "" ∧ sep ∉ s.toList) → l ≠ [] →
      l.map String.toList ≠ [[]] := by
    intro l hl hnil hmap
    obtain ⟨s, rest, rfl⟩ := List.exists_cons_of_ne_nil hnil
    have hempty : s.toList = [] := (List.cons.inj hmap).1
    exact (hl s List.mem_cons_self).1 (String.toList_eq_nil_iff.mp hempty)
  have hsame : (if l = [] then [[]] else l.map String.toList) =
      if l' = [] then [[]] else l'.map String.toList := by
    rw [← hsplit h, ← hsplit h', heq]
  by_cases hnil : l = [] <;> by_cases hnil' : l' = []
  · rw [hnil, hnil']
  · rw [if_pos hnil, if_neg hnil'] at hsame
    exact absurd hsame.symm (hparts h' hnil')
  · rw [if_neg hnil, if_pos hnil'] at hsame
    exact absurd hsame (hparts h hnil)
  · rw [if_neg hnil, if_neg hnil'] at hsame
    exact List.map_injective_iff.mpr (fun _ _ => String.toList_injective) hsame

/-! ### Slicing at a byte, and parsing a number -/

/-- `strings.LastIndexByte(s, c)` for an ASCII character `c`, as an index into the characters
of `s`, `none` for `-1`. No byte of a multi-byte UTF-8 character is ASCII, so that slicing
the bytes at that index slices the characters there. -/
def lastIndexByte : List Char → Char → Option Nat
  | [], _ => none
  | x :: s, c =>
    match lastIndexByte s c with
    | some i => some (i + 1)
    | none => if x = c then some 0 else none

lemma lastIndexByte_eq_none {s : List Char} {c : Char} (h : c ∉ s) : lastIndexByte s c = none := by
  induction s with
  | nil => rfl
  | cons x s ih =>
    have hx : x ≠ c := fun hxc => h (hxc ▸ List.mem_cons_self)
    simp [lastIndexByte, ih (fun hs => h (List.mem_cons_of_mem x hs)), hx]

lemma lastIndexByte_append_cons {l r : List Char} {c : Char} (h : c ∉ r) :
    lastIndexByte (l ++ c :: r) c = some l.length := by
  induction l with
  | nil => simp [lastIndexByte, lastIndexByte_eq_none h]
  | cons x l ih => simp [lastIndexByte, ih]

lemma lastIndexByte_append (l r : List Char) (c : Char) :
    lastIndexByte (l ++ r) c =
      match lastIndexByte r c with
      | some i => some (l.length + i)
      | none => lastIndexByte l c := by
  induction l with
  | nil => cases hr : lastIndexByte r c <;> simp [lastIndexByte, hr]
  | cons x l ih =>
    cases hr : lastIndexByte r c with
    | some i =>
      rw [hr] at ih
      simp only [List.cons_append, lastIndexByte, ih, List.length_cons, Option.some.injEq]
      omega
    | none =>
      rw [hr] at ih
      simp only [List.cons_append, lastIndexByte, ih]

/-- The value of a string of decimal digits, as the loop of `strconv.ParseUint` builds it. -/
def decimalValue (s : List Char) : Nat :=
  s.foldl (fun n c => 10 * n + (c.toNat - '0'.toNat)) 0

/-- `strconv.ParseUint(s, 10, bitSize)`, `none` for an error: a non-empty string of decimal
digits, without sign or underscores, whose value fits in `bitSize` bits. -/
def parseUint (s : List Char) (bitSize : Nat) : Option Nat :=
  if s ≠ [] ∧ s.all Char.isDigit = true ∧ decimalValue s < 2 ^ bitSize then some (decimalValue s)
  else none

lemma decimalValue_toDigits (n : Nat) : decimalValue (Nat.toDigits 10 n) = n := by
  induction n using Nat.strong_induction_on with
  | _ n ih =>
    -- the last digit comes off the end
    have hdigit : ∀ d < 10, (Nat.digitChar d).toNat - 48 = d := by
      intro d hd
      rw [Nat.toNat_digitChar_of_lt_ten hd]
      omega
    rw [Nat.toDigits_eq_if (by decide)]
    split_ifs with hn
    · simp [decimalValue, hdigit n hn]
    · have hlast : decimalValue (Nat.toDigits 10 (n / 10) ++ [Nat.digitChar (n % 10)]) =
          10 * decimalValue (Nat.toDigits 10 (n / 10)) + n % 10 := by
        simp [decimalValue, hdigit (n % 10) (Nat.mod_lt _ (by decide))]
      rw [hlast, ih (n / 10) (by omega)]
      omega

lemma parseUint_toDigits {n bitSize : Nat} (h : n < 2 ^ bitSize) :
    parseUint (Nat.toDigits 10 n) bitSize = some n := by
  have hdigits : (Nat.toDigits 10 n).all Char.isDigit = true :=
    List.all_eq_true.mpr fun _ hc => Nat.isDigit_of_mem_toDigits (by decide) (by decide) hc
  simp [parseUint, Nat.toDigits_ne_nil, hdigits, decimalValue_toDigits, h]

/-! ### `hash/fnv` -/

def offset32 : UInt32 := 2166136261

def prime32 : UInt32 := 16777619

/-- `fnv.New32`, then `Write` and `Sum32`: the 32-bit FNV-1 hash, which multiplies by the
prime before it xors each byte in. -/
def fnv32 (bytes : List UInt8) : UInt32 :=
  bytes.foldl (fun hash c => hash * prime32 ^^^ c.toUInt32) offset32

/-- `fnv.New32a`, then `Write` and `Sum32`: the 32-bit FNV-1a hash, which xors each byte in
before it multiplies by the prime. -/
def fnv32a (bytes : List UInt8) : UInt32 :=
  bytes.foldl (fun hash c => (hash ^^^ c.toUInt32) * prime32) offset32

/-- `[]byte(s)`: the UTF-8 encoding of the characters. -/
def utf8Bytes (s : List Char) : List UInt8 := s.flatMap String.utf8EncodeChar

/-! ### `fmt` and slices of strings -/

/-- `fmt.Sprintf("%0*x", width, n)` for a number `n ≥ 0`: its lower-case hexadecimal digits,
with zeros in front up to `width` digits. -/
def formatHex (width n : Nat) : List Char :=
  List.replicate (width - (Nat.toDigits 16 n).length) '0' ++ Nat.toDigits 16 n

/-- `s[lo:hi]` on a string, which Go indexes by bytes: the bytes from `lo` up to `hi`, and a
panic (`none`) unless `0 ≤ lo ≤ hi ≤ len(s)`. -/
def sliceBytes (s : List UInt8) (lo hi : Int) : Option (List UInt8) :=
  if 0 ≤ lo ∧ lo ≤ hi ∧ hi ≤ s.length then some ((s.drop lo.toNat).take (hi - lo).toNat)
  else none

lemma sliceBytes_zero {s : List UInt8} {hi : Int} (h0 : 0 ≤ hi) (hhi : hi ≤ s.length) :
    sliceBytes s 0 hi = some (s.take hi.toNat) := by
  simp [sliceBytes, h0, hhi]

@[simp] lemma utf8Bytes_nil : utf8Bytes [] = [] := rfl

@[simp] lemma utf8Bytes_cons (c : Char) (s : List Char) :
    utf8Bytes (c :: s) = String.utf8EncodeChar c ++ utf8Bytes s := rfl

@[simp] lemma utf8Bytes_append (s s' : List Char) :
    utf8Bytes (s ++ s') = utf8Bytes s ++ utf8Bytes s' := List.flatMap_append

lemma length_utf8Bytes {s : List Char} (h : ∀ c ∈ s, c.utf8Size = 1) :
    (utf8Bytes s).length = s.length := by
  induction s with
  | nil => rfl
  | cons c s ih =>
    rw [utf8Bytes_cons, List.length_append, String.length_utf8EncodeChar,
      h c List.mem_cons_self, ih fun c' hc' => h c' (List.mem_cons_of_mem _ hc'), List.length_cons,
      Nat.add_comm]

lemma mem_toDigits {b n : Nat} (hb : 1 < b) {c : Char} (hc : c ∈ Nat.toDigits b n) :
    ∃ d < b, c = Nat.digitChar d := by
  induction n using Nat.strong_induction_on with
  | _ n ih =>
    rw [Nat.toDigits_eq_if hb] at hc
    split_ifs at hc with hlt
    · exact ⟨n, hlt, List.mem_singleton.mp hc⟩
    · rcases List.mem_append.mp hc with hc | hc
      · exact ih (n / b) (Nat.div_lt_self (by omega) hb) hc
      · exact ⟨n % b, Nat.mod_lt _ (by omega), List.mem_singleton.mp hc⟩

lemma utf8Size_digitChar {d : Nat} (hd : d < 16) : (Nat.digitChar d).utf8Size = 1 := by
  have hdigits : ∀ d < 16, (Nat.digitChar d).utf8Size = 1 := by decide
  exact hdigits d hd

/-- **`%0*x` gives `width` bytes** for a number of at most `width` hexadecimal digits. -/
lemma length_formatHex {width n : Nat} (hw : 0 < width) (hn : n < 16 ^ width) :
    (utf8Bytes (formatHex width n)).length = width := by
  have hdigits : (Nat.toDigits 16 n).length ≤ width :=
    (Nat.length_toDigits_le_iff (by decide) hw).mpr hn
  have hascii : ∀ c ∈ formatHex width n, c.utf8Size = 1 := by
    intro c hc
    rcases List.mem_append.mp hc with hc | hc
    · rw [List.eq_of_mem_replicate hc]
      rfl
    · obtain ⟨d, hd, rfl⟩ := mem_toDigits (by decide) hc
      exact utf8Size_digitChar hd
  rw [length_utf8Bytes hascii, formatHex, List.length_append, List.length_replicate]
  omega

end Go
