import Mathlib.Data.List.Basic
import CsiProvisioner.Lib.GoStrings

/-!
The name checks of `k8s.io/apimachinery/pkg/util/validation` that the provisioner applies to
the secret references it resolves.

Each check returns the list of what is wrong with a value, empty for a valid one. The regular
expressions are written as tests on the characters: a lowercase RFC 1123 label is a non-empty
run of lowercase letters, digits and `-` that starts and ends with a letter or a digit, and a
subdomain is a sequence of labels separated by dots. Lengths are counted in bytes, as Go's
`len` counts them.
-/

namespace CsiProvisioner.Api.Validation

def DNS1123LabelMaxLength : Nat := 63

def DNS1123SubdomainMaxLength : Nat := 253

def DNS1035LabelMaxLength : Nat := 63

def dns1123LabelFmt : String := "[a-z0-9]([-a-z0-9]*[a-z0-9])?"

def dns1123SubdomainFmt : String := dns1123LabelFmt ++ "(\\." ++ dns1123LabelFmt ++ ")*"

def dns1123LabelErrMsg : String :=
  "a lowercase RFC 1123 label must consist of lower case alphanumeric characters or '-', and must start and end with an alphanumeric character"

def dns1123SubdomainErrorMsg : String :=
  "a lowercase RFC 1123 subdomain must consist of lower case alphanumeric characters, '-' or '.', and must start and end with an alphanumeric character"

def MaxLenError (length : Nat) : String :=
  "must be no more than " ++ toString length ++ " characters"

/-- `RegexError`: the message, the examples each quoted and followed by a comma, and the
regular expression. -/
def RegexError (msg fmt : String) (examples : List String) : String :=
  if examples.isEmpty then msg ++ " (regex used for validation is '" ++ fmt ++ "')"
  else
    msg ++ " (e.g. " ++ " or ".intercalate (examples.map fun e => "'" ++ e ++ "', ") ++
      "regex used for validation is '" ++ fmt ++ "')"

/-- A lowercase ASCII letter or a digit. -/
def isLowerAlphaNum (c : Char) : Bool := ('a' ≤ c && c ≤ 'z') || ('0' ≤ c && c ≤ '9')

/-- `dns1123LabelRegexp.MatchString`. -/
def dns1123LabelMatch : List Char → Bool
  | [] => false
  | c :: rest =>
    isLowerAlphaNum c && rest.all (fun d => isLowerAlphaNum d || d == '-') &&
      rest.getLast?.all isLowerAlphaNum

/-- `dns1123SubdomainRegexp.MatchString`: labels separated by dots. -/
def dns1123SubdomainMatch (s : List Char) : Bool :=
  (s.splitOn '.').all dns1123LabelMatch

def IsDNS1123Label (value : String) : List String :=
  let errs := if value.utf8ByteSize > DNS1123LabelMaxLength then
    [MaxLenError DNS1123LabelMaxLength] else []
  if !dns1123LabelMatch value.toList then
    if dns1123SubdomainMatch value.toList then
      -- a valid subdomain of valid length that is no label has dots
      errs ++ ["must not contain dots"]
    else errs ++ [RegexError dns1123LabelErrMsg dns1123LabelFmt ["my-name", "123-abc"]]
  else errs

def IsDNS1123Subdomain (value : String) : List String :=
  let errs := if value.utf8ByteSize > DNS1123SubdomainMaxLength then
    [MaxLenError DNS1123SubdomainMaxLength] else []
  if !dns1123SubdomainMatch value.toList then
    errs ++ [RegexError dns1123SubdomainErrorMsg dns1123SubdomainFmt ["example.com"]]
  else errs

lemma dns1123LabelMatch_of_isDNS1123Label {value : String} (h : IsDNS1123Label value = []) :
    dns1123LabelMatch value.toList = true := by
  by_contra hmatch
  unfold IsDNS1123Label at h
  split_ifs at h <;> simp_all

lemma dns1123SubdomainMatch_of_isDNS1123Subdomain {value : String}
    (h : IsDNS1123Subdomain value = []) : dns1123SubdomainMatch value.toList = true := by
  by_contra hmatch
  unfold IsDNS1123Subdomain at h
  split_ifs at h <;> simp_all

/-- **A valid label is not empty.** -/
theorem ne_empty_of_isDNS1123Label {value : String} (h : IsDNS1123Label value = []) :
    value ≠ "" := by
  rintro rfl
  exact absurd (dns1123LabelMatch_of_isDNS1123Label h) (by decide)

/-- **A valid subdomain is not empty**: the empty string splits into one empty label. -/
theorem ne_empty_of_isDNS1123Subdomain {value : String} (h : IsDNS1123Subdomain value = []) :
    value ≠ "" := by
  rintro rfl
  exact absurd (dns1123SubdomainMatch_of_isDNS1123Subdomain h) (by decide)

example : IsDNS1123Label "kube-system" = [] := by decide
example : IsDNS1123Subdomain "provisioner-secret.v1" = [] := by decide
example : IsDNS1123Label "a.b" = ["must not contain dots"] := by decide

end CsiProvisioner.Api.Validation
