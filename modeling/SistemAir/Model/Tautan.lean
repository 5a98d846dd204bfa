import SistemAir.Library.Href
import SistemAir.Model.Page

/-! The Ubah links of the tables: the address behind one, what PHP and js/air.js each read
from that address, and the page it opens. -/
namespace SistemAir

open Urlencoded Markup

/-! ## PHP -/

/-- `max_input_vars`, unless php.ini says otherwise. -/
def maxInputVars : Nat := 1000

/-- `php_register_variable_ex`: leading blanks go, other blanks, dots and brackets become
`_`. A name with an index makes an array; neither that nor an ill-formed value is a text. -/
def registerVariable (get : Form) (field : Bytes × Bytes) : Form :=
  let name := (field.1.takeWhile (· ≠ 0)).dropWhile (· = 32)
  let akar := name.takeWhile (· ≠ 91)
  let array : Bool := 93 ∈ name.dropWhile (· ≠ 91)
  let garis (b : UInt8) : UInt8 := if b = 32 || b = 46 || b = 91 then 95 else b
  if akar = [] then get
  else
    match text ((if array then akar else name).map garis) with
    | none => get
    | some nama =>
      get.filter (fun g => g.1 ≠ nama) ++
        if array then [] else (text field.2).toList.map fun value => (nama, value)

/-- `$_GET`, as far as it holds texts. -/
def phpGet (kueri : Bytes) : Form := ((fields kueri).take maxInputVars).foldl registerVariable []

/-! ## js/air.js -/

/-- The browser's UTF-8 decoder, which puts replacement characters where there is no text. -/
structure Peramban where
  dekode : Bytes → String
  dekode_utf8 : ∀ s : String, dekode (utf8 s.toList) = s

def Peramban.sederhana : Peramban where
  dekode bytes := (text bytes).getD "\uFFFD"
  dekode_utf8 s := by simp

/-- `new URLSearchParams(window.location.search).get(name)`. -/
def Peramban.params (b : Peramban) (kueri : Bytes) (name : String) : Option String :=
  ((fields kueri).find? fun field => b.dekode field.1 = name).map fun field => b.dekode field.2

/-! ## Following a link -/

def hrefs (nodes : List Node) : List String :=
  nodes.filterMap fun
    | .tag "a" [⟨"href", .single s⟩] => some s
    | _ => none

def kueriTautan (href : String) : Bytes := Href.query (Href.attrValue href.toList)

def halamanTautan (php : Php) (b : Peramban) (kueri : Bytes) (v : Variabel) (level : Level)
    (token : String) (warga : List String) : Halaman where
  php := php
  p := orEmpty (b.params kueri "p")
  user := orEmpty (b.params kueri "user")
  idTarif := orEmpty (b.params kueri "id_tarif")
  no := orEmpty (b.params kueri "no")
  token := token
  post := v.post
  level := level
  levelTarget := v.levelTarget
  tipe := v.tipe
  status := v.status
  warga := warga

end SistemAir
