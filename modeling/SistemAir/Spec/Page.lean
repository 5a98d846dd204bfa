import SistemAir.Model.Page
import SistemAir.Spec.Guard

/-! What login/index.php prints is a function of the tables as the handler leaves them,
and printing it changes neither how a request ends nor what it leaves. -/
namespace SistemAir

open Markup StatementProgram Prog

/-! ## The lists on given tables -/

namespace Db
variable (db : Db) (kalender : Kalender) (l : Latar)

def isiUser : List Node :=
  if l.level = .admin then
    (Select.daftarUser.jawab _ db).flatMap fun r => barisUser r.1 r.2
  else []

def isiTarif : List Node :=
  if l.level ∈ [Level.admin, .bendahara] then (Select.daftarTarif.jawab _ db).flatMap barisTarif
  else []

def namaPemilik (username : Option String) : Option String :=
  (username.bind db.akun).bind Login.nama

def isiMeter : List Node :=
  if l.level ∈ [Level.admin, .bendahara, .petugas] then
    (Select.daftarMeter.jawab _ db).flatMap fun r =>
      barisMeterNodes l (db.namaPemilik r.username) r
  else []

def isiWarga : List Node := ((Select.pemakaianSaya l.actor).jawab _ db).flatMap (barisWargaNodes l)

def isiLog : List Node :=
  if l.level ∈ [Level.admin, .bendahara] then
    (Select.logTerbaru.jawab _ db).flatMap (barisLog kalender)
  else []

def halaman (v : Variabel) : List Node :=
  dasbor l ++ userFormNodes l v ++
  (l.tetap .userList 0 ++ l.res .user l.sesi.resUser ++ l.tetap .userList 1 ++ db.isiUser l ++
    l.tetap .userList 2) ++
  tarifFormNodes l v ++
  (l.tetap .tarifList 0 ++ l.res .tarif l.sesi.resTarif ++ l.tetap .tarifList 1 ++ db.isiTarif l ++
    l.tetap .tarifList 2) ++
  (l.tetap .meterList 0 ++ l.res .meter l.sesi.resMeter ++ l.tetap .meterList 1 ++ db.isiMeter l ++
    l.tetap .meterList 2) ++
  meterFormNodes l v (Select.daftarWarga.jawab _ db) ((Select.dataLastMeter l.now).jawab _ db) ++
  (l.tetap .wargaList 0 ++ db.isiWarga l ++ l.tetap .wargaList 1) ++
  modalHapus l ++ settingsNodes l ((Select.profil l.actor).jawab _ db) ++
  (l.tetap .activityLog 0 ++ db.isiLog kalender l ++
    (if l.level ∈ [Level.admin, .bendahara] then l.tetap .activityLog 1 else [])) ++
  l.naskah.isi .kaki

def variabelPost (php : Php) (q : Request) : Variabel :=
  let v := SistemAir.variabelPost php q
  if q.tombol = some "meter_edit" then
    { v with
      post := v.post.suntik [("username", db.noToUser ((q.post.get? "no").map php.intval))] }
  else v

def variabel (php : Php) (q : Request) : Variabel :=
  match q.query.get? "p" with
  | some "user_edit" =>
    (db.variabelPost php q).suntikUser (q.query.get? "user")
      ((Select.userEdit (q.query.get? "user")).jawab _ db)
  | some "tarif_edit" =>
    (db.variabelPost php q).suntikTarif (q.query.get? "id_tarif")
      ((Select.tarifEdit (q.query.get? "id_tarif")).jawab _ db)
  | some "meter_edit" =>
    (db.variabelPost php q).suntikMeter
      ((Select.meterEdit ((q.query.get? "no").map php.intval)).jawab _ db)
      ((Select.statusOf ((q.query.get? "no").map php.intval)).jawab _ db)
  | _ => db.variabelPost php q

end Db

section Templates
variable (kalender : Kalender) (l : Latar) (s : Server)

theorem run_userList : (userList l).run execKueri s =
    (.ok (l.tetap .userList 0 ++ l.res .user l.sesi.resUser ++ l.tetap .userList 1 ++
      s.db.isiUser l ++ l.tetap .userList 2), s) := by
  unfold userList Db.isiUser
  split
  · rw [run_baca]
    rfl
  · simp

theorem run_tarifList : (tarifList l).run execKueri s =
    (.ok (l.tetap .tarifList 0 ++ l.res .tarif l.sesi.resTarif ++ l.tetap .tarifList 1 ++
      s.db.isiTarif l ++ l.tetap .tarifList 2), s) := by
  unfold tarifList Db.isiTarif
  split
  · rw [run_baca]
    rfl
  · simp

theorem run_barisMeterSemua (rows : List BarisMeter) : (barisMeterSemua l rows).run execKueri s =
    (.ok (rows.flatMap fun r => barisMeterNodes l (s.db.namaPemilik r.username) r), s) := by
  induction rows with
  | nil => rfl
  | cons r rows ih =>
    have hnama : ((Select.dtUser r.username).jawab _ s.db).bind (fun d => d.1) =
        s.db.namaPemilik r.username := by
      simp only [Select.jawab, Db.namaPemilik]
      cases r.username.bind s.db.akun <;> rfl
    rw [barisMeterSemua, run_baca, run_bind_ok execKueri ih, hnama]
    rfl

theorem run_meterList : (meterList l).run execKueri s =
    (.ok (l.tetap .meterList 0 ++ l.res .meter l.sesi.resMeter ++ l.tetap .meterList 1 ++
      s.db.isiMeter l ++ l.tetap .meterList 2), s) := by
  unfold meterList Db.isiMeter
  split
  · rw [run_baca, run_bind_ok execKueri (run_barisMeterSemua l s _)]
    rfl
  · simp

theorem run_activityLog : (activityLog kalender l).run execKueri s =
    (.ok (l.tetap .activityLog 0 ++ s.db.isiLog kalender l ++
      (if l.level ∈ [Level.admin, .bendahara] then l.tetap .activityLog 1 else [])), s) := by
  unfold activityLog Db.isiLog
  split
  · rw [run_baca]
    rfl
  · simp

theorem run_meterFormPage (v : Variabel) : (meterFormPage l v).run execKueri s =
    (.ok (meterFormNodes l v (Select.daftarWarga.jawab _ s.db)
      ((Select.dataLastMeter l.now).jawab _ s.db)), s) := by
  unfold meterFormPage
  rw [run_baca, run_baca]
  rfl

theorem run_wargaList : (wargaList l).run execKueri s =
    (.ok (l.tetap .wargaList 0 ++ s.db.isiWarga l ++ l.tetap .wargaList 1), s) := by
  unfold wargaList
  rw [run_baca, run_baca]
  rfl

theorem run_settings : (settings l).run execKueri s =
    (.ok (settingsNodes l ((Select.profil l.actor).jawab _ s.db)), s) := by
  unfold settings
  rw [run_baca]
  rfl

theorem run_templat (v : Variabel) : (templat kalender l v).run execKueri s =
    (.ok (s.db.halaman kalender l v), s) := by
  unfold templat
  rw [run_bind_ok execKueri (run_userList l s), run_bind_ok execKueri (run_tarifList l s),
    run_bind_ok execKueri (run_meterList l s), run_bind_ok execKueri (run_meterFormPage l s v),
    run_bind_ok execKueri (run_wargaList l s), run_bind_ok execKueri (run_settings l s),
    run_bind_ok execKueri (run_activityLog kalender l s)]
  rfl

theorem run_suntikPost (php : Php) (q : Request) :
    (suntikPost php q (variabelPost php q)).run execKueri s =
      (.ok (s.db.variabelPost php q), s) := by
  unfold suntikPost Db.variabelPost
  split
  · rw [perform_bind]
    exact run_call_ok execKueri rfl _
  · rfl

theorem run_suntikGet (php : Php) (q : Request) :
    (suntikGet php q (s.db.variabelPost php q)).run execKueri s =
      (.ok (s.db.variabel php q), s) := by
  unfold suntikGet Db.variabel
  generalize q.query.get? "p" = p
  split
  · rw [run_baca]
    rfl
  · rw [run_baca]
    rfl
  · rw [run_baca, run_baca]
    rfl
  · simp_all

end Templates

/-! ## The request -/

section Request
variable (naskah : Naskah) (kalender : Kalender) (php : Php) (q : Request) (sesi : Session)
variable {actor : String} (token : String)

def Latar.dari (a : Login) (actor : String) : Latar :=
  ⟨naskah, php, sesi, actor, token, a.nama, a.kota, a.level, q.query, q.clock.php⟩

def Db.keluaran (db : Db) (l : Latar) : Hasil → List Node
  | .halaman pesan =>
    navigasi l ++ cetakPesan l.naskah pesan ++
      if pageRefused l.level (q.query.get? "p") then
        l.naskah.isi (.akhir (.halamanDitolak none) none (q.query.get? "p"))
      else db.halaman kalender l (db.variabel php q)
  | hasil => navigasi l ++ l.naskah.isi (.akhir hasil q.tombol (q.query.get? "p"))

theorem run_loginIndexPenuh_noLevel (s : Server) (h : s.db.akun actor = none) :
    (loginIndexPenuh naskah kalender php q sesi actor token).run execKueri s =
      (.ok (.sesiTidakValid, naskah.isi (.akhir .sesiTidakValid none none)), s) := by
  unfold loginIndexPenuh
  rw [run_bind_ok execKueri ((run_angkat _ s).trans (run_dtUser s actor))]
  simp only [h]
  rfl

theorem run_loginIndexPenuh (s : Server) {a : Login} (h : s.db.akun actor = some a) :
    (loginIndexPenuh naskah kalender php q sesi actor token).run execKueri s =
      let out := (tangani php q actor a.level token).run exec s
      let l := Latar.dari naskah php q sesi token a actor
      (out.1.map fun hasil => (render a.level q hasil, out.2.db.keluaran kalender php q l hasil),
        out.2) := by
  unfold loginIndexPenuh
  rw [run_bind_ok execKueri ((run_angkat _ s).trans (run_dtUser s actor))]
  simp only [h, Option.map_some, Option.bind_some]
  cases hout : (tangani php q actor a.level token).run exec s with
  | mk answer s' =>
    cases answer with
    | error galat => exact run_bind_error execKueri ((run_angkat _ s).trans hout) _
    | ok hasil =>
      rw [run_bind_ok execKueri ((run_angkat _ s).trans hout)]
      cases hasil with
      | halaman pesan =>
        simp only [render, Db.keluaran, Latar.dari]
        split
        · simp [Except.map, *]
        · rw [run_bind_ok execKueri (run_suntikPost s' php q),
            run_bind_ok execKueri (run_suntikGet s' php q),
            run_bind_ok execKueri (run_templat kalender _ s' _)]
          simp [Except.map, *]
      | _ => rfl

theorem run_tangani (s : Server) {level : Level} (h : s.db.levelOf (some actor) = some level) :
    (loginIndex php q actor token).run exec s =
      let out := (tangani php q actor level token).run exec s
      (out.1.map (render level q), out.2) := by
  rw [run_loginIndex php q token s h]
  unfold tangani
  cases q.tombol with
  | none => rfl
  | some tombol =>
    dsimp only
    split
    · rfl
    split
    · rfl
    · rfl

/-- Printing changes neither the answer nor the tables. -/
theorem loginIndexPenuh_refines (actor : String) (s : Server) :
    let out := (loginIndexPenuh naskah kalender php q sesi actor token).run execKueri s
    (out.1.map Prod.fst, out.2) = (loginIndex php q actor token).run exec s := by
  cases h : s.db.akun actor with
  | none =>
    have hlevel : s.db.levelOf (some actor) = none := by simp [Db.levelOf, h]
    rw [run_loginIndexPenuh_noLevel naskah kalender php q sesi token s h,
      run_loginIndex_noLevel php s hlevel]
    rfl
  | some a =>
    have hlevel : s.db.levelOf (some actor) = some a.level := by simp [Db.levelOf, h]
    rw [run_loginIndexPenuh naskah kalender php q sesi token s h,
      run_tangani php q token s hlevel]
    dsimp only
    cases ((tangani php q actor a.level token).run exec s).1 <;> rfl

theorem handleLoginIndexPenuh_refines (w : World) :
    ((handleLoginIndexPenuh naskah kalender php w q).1.map Prod.fst,
      (handleLoginIndexPenuh naskah kalender php w q).2) = handleLoginIndex php w q := by
  cases hnamed : isEmpty (w.session q.sid).user with
  | true => simp [handleLoginIndexPenuh, handleLoginIndex, hnamed, Except.map]
  | false =>
    cases hidle : idle (w.session q.sid) q.clock.time with
    | true => simp [handleLoginIndexPenuh, handleLoginIndex, hnamed, hidle, Except.map]
    | false =>
      have hrefines := loginIndexPenuh_refines naskah kalender php q
        { w.session q.sid with lastActivity := some q.clock.time }
        (ensureToken (w.session q.sid).csrfToken q.token)
        (orEmpty (w.session q.sid).user) { w.server with clock := q.clock }
      simp only [Prod.ext_iff] at hrefines
      obtain ⟨hanswer, hserver⟩ := hrefines
      simp only [handleLoginIndexPenuh, handleLoginIndex, hnamed, hidle, Bool.false_eq_true,
        if_false]
      rw [← hanswer, ← hserver]

def World.latar (w : World) (a : Login) (actor : String) : Latar :=
  .dari naskah php q { w.session q.sid with lastActivity := some q.clock.time } (w.csrfToken q) a actor

theorem handleLoginIndexPenuh_open {w : World} {a : Login}
    (huser : (w.session q.sid).user = some actor) (hnamed : isEmpty (some actor) = false)
    (hactive : idle (w.session q.sid) q.clock.time = false) (hakun : w.db.akun actor = some a) :
    let out := (tangani php q actor a.level (w.csrfToken q)).run exec (w.opened q)
    (handleLoginIndexPenuh naskah kalender php w q).1 = (out.1.map fun hasil =>
        (render a.level q hasil,
          out.2.db.keluaran kalender php q (w.latar naskah php q a actor) hasil)) ∧
      (handleLoginIndexPenuh naskah kalender php w q).2.server = out.2 := by
  have hrun := run_loginIndexPenuh naskah kalender php q
    { w.session q.sid with lastActivity := some q.clock.time } (w.csrfToken q) (w.opened q) hakun
  have hactor : orEmpty (w.session q.sid).user = actor := by rw [huser]; rfl
  unfold handleLoginIndexPenuh
  rw [← huser] at hnamed
  simp only [hnamed, hactive, hactor, Bool.false_eq_true, if_false]
  constructor
  · exact congrArg Prod.fst hrun
  · exact congrArg Prod.snd hrun

theorem server_handleLoginIndexPenuh {w : World} (hpage : q.page = .loginIndex) :
    (handleLoginIndexPenuh naskah kalender php w q).2.server = (step php w q).server := by
  have hrefines := congrArg Prod.snd (handleLoginIndexPenuh_refines naskah kalender php q w)
  rw [step, handle, hpage]
  exact congrArg World.server hrefines

end Request

end SistemAir
