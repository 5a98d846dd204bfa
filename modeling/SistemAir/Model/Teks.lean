import SistemAir.Library.Decimal
import SistemAir.Model.Clock

/-! The texts PHP and MySQL make of the values a page prints. -/
namespace SistemAir

def pad (width n : Nat) : String :=
  String.ofList (List.replicate (width - (toString n).length) '0') ++ toString n

def Date.teks (d : Date) : String := pad 4 d.year ++ "-" ++ pad 2 d.month ++ "-" ++ pad 2 d.day

def jam (waktu : Fin 86400) : String :=
  pad 2 (waktu.val / 3600) ++ ":" ++ pad 2 (waktu.val / 60 % 60) ++ ":" ++ pad 2 (waktu.val % 60)

def tglBalik (d : Date) : String := pad 2 d.day ++ "-" ++ pad 2 d.month ++ "-" ++ pad 4 d.year

/-- Points between groups of three, on digits in reverse order. -/
def ribuan : List Char → List Char
  | a :: b :: c :: d :: rest => a :: b :: c :: '.' :: ribuan (d :: rest)
  | digits => digits

/-- `number_format($n, 0, ',', '.')`. -/
def numberFormat (n : Decimal) : String :=
  (if n.round < 0 then "-" else "") ++
    String.ofList (ribuan (toString n.round.natAbs).toList.reverse).reverse

/-- `htmlspecialchars`, which since PHP 8.1 escapes both quotes by default. -/
def htmlspecialchars (s : String) : String :=
  String.ofList <| s.toList.flatMap fun c =>
    match c with
    | '&' => "&amp;".toList
    | '<' => "&lt;".toList
    | '>' => "&gt;".toList
    | '"' => "&quot;".toList
    | '\'' => "&#039;".toList
    | c => [c]

def bln (no : Nat) : String :=
  match no with
  | 1 => "Januari"
  | 2 => "Februari"
  | 3 => "Maret"
  | 4 => "April"
  | 5 => "Mei"
  | 6 => "Juni"
  | 7 => "Juli"
  | 8 => "Agustus"
  | 9 => "September"
  | 10 => "Oktober"
  | 11 => "November"
  | _ => "Desember"

/-- SQL `LIKE` with the escape character MySQL uses by default. -/
def like : (pattern text : List Char) → Bool
  | [], text => text.isEmpty
  | '%' :: pattern, text => text.tails.any (like pattern)
  | '_' :: pattern, text =>
    match text with
    | [] => false
    | _ :: text => like pattern text
  | '\\' :: c :: pattern, text =>
    match text with
    | [] => false
    | d :: text => c = d && like pattern text
  | c :: pattern, text =>
    match text with
    | [] => false
    | d :: text => c = d && like pattern text

/-- `tgl LIKE ?` compares the text of the date. -/
def Date.like (pattern : String) (d : Date) : Bool := SistemAir.like pattern.toList d.teks.toList

example : numberFormat 1234567 = "1.234.567" := by decide +kernel

end SistemAir
