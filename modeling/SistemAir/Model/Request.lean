import SistemAir.Model.Schema

/-! Requests, sessions and what PHP makes of posted text. -/
namespace SistemAir

/-- PHP and password functions the pages rely on. `angka` is the number that a posted
text is to PHP's `-` and `*` and to a numeric column; where it has none the request ends
in a TypeError or in a rejected statement. `numerik` is the number of a text that is
numeric as a whole, by which `==` compares two of them. `intval` is the `(int)` cast,
which binding a parameter as "i" applies too. -/
structure Php where
  angka : String → Option Decimal
  numerik : String → Option Decimal
  intval : String → Int
  passwordHash : (salt : String) → String → String
  passwordVerify : String → String → Bool
  angka_empty : angka "" = none
  angka_text : ∀ n : Decimal, angka n.text = some n
  angka_numerik : ∀ s n, numerik s = some n → angka s = some n
  intval_toString : ∀ n : Int, intval (toString n) = n

/-- PHP's `==` of two texts. -/
def Php.sama (php : Php) (a b : String) : Bool :=
  match php.numerik a, php.numerik b with
  | some x, some y => x = y
  | _, _ => a = b

section Digits

def natOfDigits (digits : List Char) : Option Nat :=
  if digits ≠ [] ∧ digits.all Char.isDigit then some (Nat.ofDigitChars 10 digits 0) else none

def intOfText (text : String) : Option Int :=
  match text.toList with
  | '-' :: digits => (natOfDigits digits).map fun (n : Nat) => -(n : Int)
  | digits => (natOfDigits digits).map fun (n : Nat) => (n : Int)

theorem isDigit_of_mem_repr {n : Nat} {c : Char} (hc : c ∈ n.repr.toList) : c.isDigit = true := by
  rw [Nat.toList_repr] at hc
  exact Nat.isDigit_of_mem_toDigits (by omega) (by omega) hc

theorem natOfDigits_repr (n : Nat) : natOfDigits n.repr.toList = some n := by
  have hne : n.repr.toList ≠ [] := by simp
  have hall : n.repr.toList.all Char.isDigit = true :=
    List.all_eq_true.mpr fun c hc => isDigit_of_mem_repr hc
  rw [natOfDigits, if_pos ⟨hne, hall⟩, Nat.toList_repr, Nat.ofDigitChars_ten_toDigits]

theorem intOfText_toString (n : Int) : intOfText (toString n) = some n := by
  rw [Int.toString_eq_repr, Int.repr_eq_if]
  split
  · rename_i hn
    unfold intOfText
    split
    · rename_i digits heq
      have hminus : '-' ∈ n.toNat.repr.toList := heq ▸ List.mem_cons_self
      exact absurd (isDigit_of_mem_repr hminus) (by decide)
    · rw [natOfDigits_repr]
      simp [hn]
  · have hlist : ("-" ++ (-n).toNat.repr).toList = '-' :: (-n).toNat.repr.toList := by simp
    unfold intOfText
    rw [hlist]
    simp only [natOfDigits_repr, Option.map_some, Option.some.injEq]
    omega

/-- PHP on the texts that spell a decimal number, with a transparent hash. -/
def Php.decimal : Php where
  angka := Decimal.ofText?
  numerik := Decimal.ofText?
  intval text := (intOfText text).getD 0
  passwordHash salt password := salt ++ "$" ++ password
  passwordVerify password hash :=
    (hash.toList.dropWhile (· ≠ '$')).drop 1 = password.toList
  angka_empty := by decide
  angka_text := Decimal.ofText?_text
  angka_numerik _ _ h := h
  intval_toString n := by rw [intOfText_toString]; rfl

end Digits

/-- `empty($s)`. -/
def isEmpty : Option String → Bool
  | none => true
  | some s => s = "" || s = "0"

/-- `trim`, on the six characters it strips. -/
def trim (s : String) : String :=
  let blank (c : Char) : Bool := c ∈ [' ', '\t', '\n', '\r', '\x00', '\x0b']
  String.ofList ((s.toList.dropWhile blank).reverse.dropWhile blank).reverse

/-- `strtolower`, which since PHP 8 knows ASCII only. -/
def strtolower (s : String) : String := String.ofList (s.toList.map Char.toLower)

def pathinfoExtension (name : String) : String :=
  let base := (name.toList.reverse.takeWhile (· ≠ '/')).reverse
  if '.' ∈ base then String.ofList (base.reverse.takeWhile (· ≠ '.')).reverse else ""

abbrev Form := List (String × String)

/-- `$_POST[$name] ?? null`: of two fields with one name the later one counts. -/
def Form.get? : Form → String → Option String
  | [], _ => none
  | (field, value) :: rest, name =>
    (Form.get? rest name).or (if field = name then some value else none)

/-- A null parameter inside a text. -/
def orEmpty (s : Option String) : String := s.getD ""

/-- `$_FILES['bukti_file']`; `moved` is whether move_uploaded_file() succeeds. -/
structure Upload where
  ok : Bool
  name : String
  size : Nat
  content : String
  moved : Bool

inductive Page
  | index
  | loginIndex
  | ajax
  | logout
  deriving DecidableEq, Repr

/-- One HTTP request together with what it draws from its surroundings: the
clocks, `bin2hex(random_bytes(32))` and the salt of `password_hash`. -/
structure Request where
  sid : Nat
  page : Page
  query : Form
  post : Form
  file : Option Upload
  ip : String
  clock : Clock
  token : String
  salt : String

def Request.tombol (q : Request) : Option String := q.post.get? "tombol"

inductive Res
  | suksesAdd
  | suksesEdit
  | tanpaPerubahan
  | suksesHapus
  | gagalHapus
  deriving DecidableEq, Repr

structure Session where
  user : Option String
  csrfToken : Option String
  csrfTokenLogin : Option String
  lastActivity : Option Nat
  resUser : Option Res
  resTarif : Option Res
  resMeter : Option Res
  resSettings : Option Res
  deriving DecidableEq, Repr

def Session.empty : Session := ⟨none, none, none, none, none, none, none, none⟩

/-- Keep a token the session has, else store the freshly drawn one. -/
def ensureToken (token : Option String) (fresh : String) : String :=
  if isEmpty token then fresh else token.getD ""

/-- The guard `empty($_POST['csrf_token']) || !hash_equals($token, $_POST['csrf_token'])`. -/
def tokenRefused (token : String) (posted : Option String) : Bool :=
  isEmpty posted || posted ≠ some token

theorem tokenRefused_eq_false_iff {token : String} {posted : Option String} :
    tokenRefused token posted = false ↔ posted = some token ∧ isEmpty (some token) = false := by
  unfold tokenRefused
  constructor
  · intro h
    simp only [ne_eq, decide_not, Bool.or_eq_false_iff, Bool.not_eq_eq_eq_not, Bool.not_false,
      decide_eq_true_eq] at h
    exact ⟨h.2, h.2 ▸ h.1⟩
  · rintro ⟨rfl, h⟩
    simp [h]

end SistemAir
