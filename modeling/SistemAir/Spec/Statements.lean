import SistemAir.Spec.Billing

/-! Which statements a request may issue and what it binds to them, on every path and
whatever they are answered. What one such statement does holds among the statements of
any other requests. -/
namespace SistemAir

open KeyedTable StatementProgram Prog

structure TeraSah (awal akhir : Option Decimal) (pemakaian : Decimal) (status : Option String) :
    Prop where
  volume : pemakaian = akhir.getD 0 - awal.getD 0
  nonneg : 0 ≤ pemakaian
  settled : pemakaian = 0 → status = some "LUNAS"

def Terbit (actor : String) (level : Level) (tombol : String) : (β : Type) → Op β → Prop
  | _, .insertAudit actor' level' aksi _ _ _ => actor' = actor ∧ level' = level ∧ aksi = tombol
  | _, .insertLogin .. => tombol = "user_add"
  | _, .updateUser .. => tombol = "user_edit"
  | _, .deletePemakaianOf _ => tombol = "user_hapus"
  | _, .deleteLogin _ => tombol = "user_hapus"
  | _, .insertTarif .. => tombol = "tarif_add"
  | _, .updateTarif .. => tombol = "tarif_edit"
  | _, .deleteTarif _ => tombol = "tarif_hapus"
  | _, .countMonth .. => tombol = "meter_add"
  | _, .insertPemakaian _ awal akhir pemakaian _ _ status =>
    tombol = "meter_add" ∧ TeraSah awal akhir pemakaian status
  | _, .updateMeter awal akhir pemakaian _ status _ =>
    tombol = "meter_edit" ∧ TeraSah awal akhir pemakaian status
  | _, .deletePemakaian _ => tombol = "meter_hapus"
  | _, .storeUpload .. => tombol = "upload_bukti"
  | _, .updateBukti _ _ u => tombol = "upload_bukti" ∧ u = actor
  | _, .updateProfil _ _ _ _ _ u => tombol = "profil_edit" ∧ u = actor
  | _, .passwordOf _ => False
  | _, .countAttempts _ => False
  | _, .insertAttempt _ => False
  | _, _ => True

/-- The statements of index.php; an account made there is a resident's. -/
def TerbitIndex : (β : Type) → Op β → Prop
  | _, .countAttempts _ => True
  | _, .passwordOf _ => True
  | _, .insertAttempt _ => True
  | _, .countLogin _ => True
  | _, .insertLogin _ _ _ _ _ _ level _ _ => level = .warga
  | _, _ => False

def TerbitHalaman (β : Type) (op : Op β) : Prop :=
  TerbitIndex β op ∨ ∃ actor level tombol, roleRefused level tombol = false ∧
    Terbit actor level tombol β op

section Handlers
variable {actor : String} {level : Level} {tombol : String} (php : Php) (q : Request)

theorem terbit_userToIdtarif (u : Option String) :
    (userToIdtarif u).Only (Terbit actor level tombol) := by
  refine ⟨trivial, fun tipe => ?_⟩
  cases tipe with
  | none => trivial
  | some tipe =>
    refine ⟨trivial, fun t => ?_⟩
    cases t <;> trivial

theorem terbit_idTarifToTarif (id : String) :
    (idTarifToTarif id).Only (Terbit actor level tombol) := by
  refine ⟨trivial, fun t => ?_⟩
  cases t <;> trivial

theorem terbit_noToUser (no : Option Int) : (noToUser no).Only (Terbit actor level tombol) := by
  refine ⟨trivial, fun u => ?_⟩
  cases u <;> trivial

theorem terbit_operand (text : Option String) :
    (operand php text).Only (Terbit actor level tombol) := by
  unfold operand
  split
  · trivial
  · split <;> trivial

theorem terbit_numericColumn (text : Option String) :
    (numericColumn php text).Only (Terbit actor level tombol) := by
  unfold numericColumn
  split
  · trivial
  · split <;> trivial

theorem terbit_reported {berhasil gagal : Hasil} (affected : Nat) (tabel : String)
    (idTarget : Option String) (detail : String) :
    (if 0 < affected then do
        catatLog actor level tombol tabel idTarget detail
        return berhasil
      else return gagal : Aksi Hasil).Only (Terbit actor level tombol) :=
  .ite ⟨⟨rfl, rfl, rfl⟩, fun _ => trivial⟩ trivial

theorem teraSah_of_nonneg {awal akhir : Option Decimal} (posted : Option String)
    (h : ¬akhir.getD 0 - awal.getD 0 < 0) :
    TeraSah awal akhir (akhir.getD 0 - awal.getD 0)
      (if akhir.getD 0 - awal.getD 0 = 0 then some "LUNAS" else posted) :=
  ⟨rfl, not_lt.mp h, fun hzero => if_pos hzero⟩

theorem terbit_meterAdd :
    (meterAdd php actor level q.post).Only (Terbit actor level "meter_add") := by
  refine (terbit_userToIdtarif _).bind fun kdTarif => ?_
  refine (terbit_idTarifToTarif _).bind fun tarif => ⟨trivial, fun now => ?_⟩
  refine (terbit_operand php _).bind fun akhir => (terbit_operand php _).bind fun awal => ?_
  refine ⟨rfl, fun found => .ite trivial ?_⟩
  split
  · trivial
  · rename_i hpos
    exact ⟨⟨rfl, teraSah_of_nonneg _ hpos⟩, fun affected => terbit_reported affected _ _ _⟩

theorem terbit_meterEdit :
    (meterEdit php actor level q.post).Only (Terbit actor level "meter_edit") := by
  refine ⟨trivial, fun tgl => ⟨trivial, fun now => .ite trivial ?_⟩⟩
  refine (terbit_noToUser _).bind fun u => (terbit_userToIdtarif _).bind fun kdTarif => ?_
  refine (terbit_idTarifToTarif _).bind fun tarif => ?_
  refine (terbit_operand php _).bind fun akhir => (terbit_operand php _).bind fun awal => ?_
  dsimp only
  split
  · trivial
  · rename_i hpos
    exact ⟨⟨rfl, teraSah_of_nonneg _ hpos⟩, fun affected => terbit_reported affected _ _ _⟩

theorem terbit_uploadBukti (file : Option Upload) :
    (uploadBukti php actor level q.post file).Only (Terbit actor level "upload_bukti") := by
  have hkept (bukti : String) (upload : Upload) : (do
      if ← perform (Op.storeUpload bukti upload) then
        let _ ← perform (Op.updateBukti bukti (nomorBukti php q.post) actor)
        catatLog actor level "upload_bukti" "pemakaian" (some (toString (nomorBukti php q.post)))
          ("Upload bukti bayar: " ++ bukti)
        return .unggah .berhasil
      else
        return .unggah .gagalPindah : Aksi Hasil).Only (Terbit actor level "upload_bukti") := by
    refine ⟨rfl, fun stored => ?_⟩
    cases stored with
    | true => exact ⟨⟨rfl, rfl⟩, fun _ => ⟨⟨rfl, rfl, rfl⟩, fun _ => trivial⟩⟩
    | false => trivial
  unfold uploadBukti
  cases file with
  | none => exact only_pure _
  | some upload =>
    dsimp only
    -- Otherwise the comparison with the three extensions is evaluated.
    generalize strtolower (pathinfoExtension upload.name) = ext
    exact .ite (.ite trivial (.ite trivial ⟨trivial, fun now => hkept _ _⟩)) trivial

theorem terbit_dispatch (tombol : String) :
    (dispatch php q actor level tombol).Only (Terbit actor level tombol) := by
  unfold dispatch
  split
  · refine ⟨trivial, fun found => .ite ⟨rfl, fun affected => ?_⟩ trivial⟩
    exact terbit_reported affected _ _ _
  · exact ⟨rfl, fun affected => terbit_reported affected _ _ _⟩
  · exact ⟨rfl, fun _ => ⟨rfl, fun affected => terbit_reported affected _ _ _⟩⟩
  · refine ⟨trivial, fun found => .ite ((terbit_numericColumn php _).bind fun tarif => ?_) trivial⟩
    exact ⟨rfl, fun affected => terbit_reported affected _ _ _⟩
  · refine (terbit_numericColumn php _).bind fun tarif => ⟨rfl, fun affected => ?_⟩
    exact terbit_reported affected _ _ _
  · exact ⟨rfl, fun affected => terbit_reported affected _ _ _⟩
  · exact terbit_meterAdd php q
  · exact terbit_meterEdit php q
  · exact terbit_uploadBukti php q q.file
  · refine ⟨trivial, fun tgl => ⟨trivial, fun now => .ite trivial ⟨rfl, fun affected => ?_⟩⟩⟩
    exact terbit_reported affected _ _ _
  · exact ⟨⟨rfl, rfl⟩, fun affected => terbit_reported affected _ _ _⟩
  · trivial

theorem terbit_index (token : String) : (index php q token).Only TerbitIndex := by
  have hlogin : (login php q.ip q.post).Only TerbitIndex := by
    refine ⟨trivial, fun found => ?_⟩
    cases found with
    | none => exact ⟨trivial, fun _ => trivial⟩
    | some found => exact .ite trivial ⟨trivial, fun _ => trivial⟩
  have hregister : (registerWarga php q.salt q.post).Only TerbitIndex :=
    ⟨trivial, fun found => .ite trivial ⟨rfl, fun _ => trivial⟩⟩
  refine ⟨trivial, fun attempts => ?_⟩
  cases q.tombol with
  | none => trivial
  | some tombol =>
    exact .ite trivial (.ite trivial (.ite hlogin (.ite hregister trivial)))

end Handlers

end SistemAir
