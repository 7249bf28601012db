import Mathlib.Data.List.DropRight
import NimbusPos.Lib.Run
import NimbusPos.MerchantPayments.Service

/-!
# The note under the readiness

Writing takes one tag off the note and reading takes off the tag of the row, so a note is kept
along updates that change nothing exactly if no tag is left at its beginning when it is first
written.
-/

namespace NimbusPos.MerchantPaymentsService

open Lib Lib.Service
open Text (isWhiteSpace trim)

-- ---
-- Trimming
-- ---

def strip (text : List Char) : List Char := (text.dropWhile isWhiteSpace).rdropWhile isWhiteSpace

theorem toList_trim (text : String) : (trim text).toList = strip text.toList := by
  rw [trim, String.toList_ofList]
  rfl

theorem trim_eq (text : String) : trim text = String.ofList (strip text.toList) := rfl

theorem rdropWhile_cons (c : Char) (text : List Char) :
    (c :: text).rdropWhile isWhiteSpace =
      if text.rdropWhile isWhiteSpace = [] ∧ isWhiteSpace c = true then []
      else c :: text.rdropWhile isWhiteSpace := by
  rw [List.rdropWhile, List.reverse_cons, List.dropWhile_append, List.rdropWhile]
  cases hback : text.reverse.dropWhile isWhiteSpace with
  | nil => by_cases hc : isWhiteSpace c = true <;> simp [hc]
  | cons d rest => simp

/-- What ends with no blank is not touched by what is taken off behind it. -/
theorem rdropWhile_append {last : Char} (front rest : List Char)
    (hlast : isWhiteSpace last = false) :
    (front ++ last :: rest).rdropWhile isWhiteSpace =
      front ++ last :: rest.rdropWhile isWhiteSpace := by
  induction front with
  | nil => simp [rdropWhile_cons, hlast]
  | cons c front ih => simp [rdropWhile_cons, ih]

theorem strip_front {first last : Char} (front rest : List Char)
    (hfirst : isWhiteSpace first = false) (hlast : isWhiteSpace last = false) :
    strip (first :: (front ++ last :: rest)) =
      first :: (front ++ last :: rest.rdropWhile isWhiteSpace) := by
  rw [strip, List.dropWhile_cons_of_neg (by simp [hfirst])]
  exact rdropWhile_append (first :: front) rest hlast

/-- Blanks are taken off at both ends in any order. -/
theorem dropWhile_rdropWhile (text : List Char) :
    (text.rdropWhile isWhiteSpace).dropWhile isWhiteSpace = strip text := by
  induction text with
  | nil => rfl
  | cons c text ih =>
    rw [strip, rdropWhile_cons]
    by_cases hc : isWhiteSpace c = true
    · rw [List.dropWhile_cons_of_pos hc, ← strip, ← ih]
      split
      · rename_i hblank
        rw [hblank.1]
      · rw [List.dropWhile_cons_of_pos hc]
    · rw [List.dropWhile_cons_of_neg hc, rdropWhile_cons, if_neg fun hblank => hc hblank.2,
        List.dropWhile_cons_of_neg hc]

theorem strip_rdropWhile (text : List Char) :
    strip (text.rdropWhile isWhiteSpace) = strip text := by
  rw [strip, dropWhile_rdropWhile, strip, List.rdropWhile_idempotent]

theorem strip_cons_blank (hc : isWhiteSpace c = true) (text : List Char) :
    strip (c :: text) = strip text := by
  rw [strip, List.dropWhile_cons_of_pos hc, strip]

theorem strip_strip (text : List Char) : strip (strip text) = strip text := by
  rw [← dropWhile_rdropWhile text, strip, List.dropWhile_idempotent, ← strip, strip_rdropWhile,
    dropWhile_rdropWhile]

theorem strip_length_le (text : List Char) : (strip text).length ≤ text.length :=
  (List.rdropWhile_prefix _ _).length_le.trans (List.dropWhile_suffix _).length_le

-- ---
-- Tags
-- ---

/-- A readiness tag, in any case and with any label. -/
def IsTag (tag : List Char) : Prop :=
  ∃ start label, tag = start ++ label ++ [']'] ∧ start.map Char.toLower = readinessPrefix ∧
    label ≠ [] ∧ ']' ∉ label

theorem eq_of_toLower {c : Char} (h : c.toLower = '[') : c = '[' := by
  unfold Char.toLower at h
  split at h
  · rename_i hupper
    have hlow : 65 ≤ c.val.toNat := hupper.1
    have hhigh : c.val.toNat ≤ 90 := hupper.2
    have hsum : (c.val.toNat + 32) % 4294967296 = 91 := congrArg (fun d => d.val.toNat) h
    omega
  · exact h

/-- A tag stands between brackets. -/
theorem IsTag.front {tag : List Char} (h : IsTag tag) :
    ∃ front, ∀ rest, tag ++ rest = '[' :: (front ++ ']' :: rest) := by
  obtain ⟨start, label, rfl, hstart, -, -⟩ := h
  cases start with
  | nil => cases hstart
  | cons c start =>
    obtain rfl := eq_of_toLower (List.cons.inj hstart).1
    exact ⟨start ++ label, fun rest => by simp⟩

theorem afterTag_iff {text rest : List Char} : afterTag text = some rest ↔
    ∃ tag behind, text = tag ++ behind ∧ IsTag tag ∧ rest = behind.dropWhile isWhiteSpace := by
  constructor
  · intro h
    unfold afterTag at h
    split at h
    · rename_i hstart
      cases hbehind : (text.drop 11).dropWhile (· != ']') with
      | nil =>
        rw [hbehind] at h
        cases h
      | cons c behind =>
        simp only [hbehind, Option.ite_none_left_eq_some, Option.some.injEq] at h
        obtain ⟨hlabel, rfl⟩ := h
        have hsplit := List.takeWhile_append_dropWhile (p := (· != ']')) (l := text.drop 11)
        have hc : c = ']' := by
          have hhead := List.head?_dropWhile_not (· != ']') (text.drop 11)
          simpa [hbehind] using hhead
        refine ⟨text.take 11 ++ (text.drop 11).takeWhile (· != ']') ++ [']'], behind, ?_,
          ⟨_, _, rfl, hstart, hlabel, fun hmem => ?_⟩, rfl⟩
        · rw [hbehind, hc] at hsplit
          rw [List.append_assoc, List.append_assoc]
          exact (List.take_append_drop 11 text).symm.trans (congrArg _ hsplit.symm)
        · simpa using List.mem_takeWhile_imp hmem
    · cases h
  · rintro ⟨tag, behind, rfl, ⟨start, label, rfl, hstart, hlabel, hclose⟩, rfl⟩
    have hlength : start.length = 11 := by
      rw [← List.length_map Char.toLower, hstart]
      rfl
    have htake : (start ++ label ++ [']'] ++ behind).take 11 = start := by
      simp [← hlength]
    have hdrop : (start ++ label ++ [']'] ++ behind).drop 11 = label ++ ']' :: behind := by
      simp [← hlength]
    have hplain : ∀ c ∈ label, (c != ']') = true := by
      intro c hc
      rw [bne_iff_ne]
      rintro rfl
      exact hclose hc
    unfold afterTag
    rw [htake, hdrop, if_pos hstart, List.takeWhile_append_of_pos hplain,
      List.dropWhile_append_of_pos hplain]
    simp [hlabel]

def BeginsWithTag (text : String) : Prop := (afterTag text.toList).isSome = true

instance (text : String) : Decidable (BeginsWithTag text) := inferInstanceAs (Decidable (_ = true))

theorem withoutTag_of_not {text : String} (h : ¬BeginsWithTag text) : withoutTag text = text := by
  rw [BeginsWithTag, Option.not_isSome_iff_eq_none] at h
  rw [withoutTag, h]
  rfl

/-- A tag at the beginning stays there when blanks are taken off. -/
theorem beginsWithTag_trim {text : String} (h : BeginsWithTag text) :
    BeginsWithTag (trim text) := by
  obtain ⟨rest, hrest⟩ := Option.isSome_iff_exists.mp h
  obtain ⟨tag, behind, htext, htag, -⟩ := afterTag_iff.mp hrest
  obtain ⟨front, hfront⟩ := htag.front
  have hstrip : strip text.toList = tag ++ behind.rdropWhile isWhiteSpace := by
    rw [htext, hfront, hfront]
    have hopen : isWhiteSpace '[' = false := rfl
    have hend : isWhiteSpace ']' = false := rfl
    exact strip_front front behind hopen hend
  rw [BeginsWithTag, toList_trim, hstrip, Option.isSome_iff_exists]
  exact ⟨_, afterTag_iff.mpr ⟨tag, _, rfl, htag, rfl⟩⟩

/-- What is left without a tag at the beginning is shorter. -/
theorem trim_withoutTag_ne {text : String} (h : BeginsWithTag text) :
    trim (withoutTag text) ≠ text := by
  obtain ⟨rest, hrest⟩ := Option.isSome_iff_exists.mp h
  obtain ⟨tag, behind, htext, htag, hbehind⟩ := afterTag_iff.mp hrest
  obtain ⟨front, hfront⟩ := htag.front
  have hwithout : withoutTag text = String.ofList rest := by
    rw [withoutTag, hrest]
    rfl
  intro heq
  have hlength := congrArg (fun t => t.toList.length) heq
  simp only [hwithout, toList_trim, String.toList_ofList] at hlength
  simp only [htext, hfront, List.length_cons, List.length_append] at hlength
  have hshort : (strip rest).length ≤ behind.length := by
    rw [hbehind]
    exact (strip_length_le _).trans (List.dropWhile_suffix _).length_le
  omega

-- ---
-- Reading what is written
-- ---

theorem findIdx?_first {front : List Char} (rest : List Char) (h : ']' ∉ front) :
    (front ++ ']' :: rest).findIdx? (· == ']') = some front.length := by
  induction front with
  | nil => rfl
  | cons c front ih =>
    rw [List.mem_cons, not_or] at h
    have hc : (c == ']') = false := beq_false_of_ne (Ne.symm h.1)
    rw [List.cons_append, List.findIdx?_cons, hc, ih h.2]
    rfl

/-- What is written, before the blanks are taken off. -/
theorem toList_encoded (readiness note : String) :
    ("[readiness=" ++ readiness ++ "] " ++ note).toList =
      (readinessPrefix ++ readiness.toList) ++ ']' :: ' ' :: note.toList := by
  have hclose : "] ".toList = [']', ' '] := rfl
  rw [String.toList_append, String.toList_append, String.toList_append, hclose,
    List.append_assoc _ [']', ' ']]
  rfl

/-- The readiness is read back, and the note without a tag and without blanks around it. -/
theorem decodeReadiness_encodeReadiness {readiness : String} (h : ']' ∉ readiness.toList)
    (status : MerchantPaymentConfigStatus) (notes : Option String) :
    decodeReadiness status (some (encodeReadiness readiness notes)) =
      { readiness, notes := orNull (trim (withoutTag (notes.getD ""))) } := by
  let front := readinessPrefix ++ readiness.toList
  let tail := (' ' :: (withoutTag (notes.getD "")).toList).rdropWhile isWhiteSpace
  have hraw : (encodeReadiness readiness notes).toList = front ++ ']' :: tail := by
    have hopen : isWhiteSpace '[' = false := rfl
    have hend : isWhiteSpace ']' = false := rfl
    rw [encodeReadiness, toList_trim, toList_encoded]
    exact strip_front ("readiness=".toList ++ readiness.toList) _ hopen hend
  have hclose : ']' ∉ front := by
    rw [List.mem_append, not_or]
    exact ⟨by decide, h⟩
  have hprefix : readinessPrefix <+: front ++ ']' :: tail :=
    (List.prefix_append _ _).trans (List.prefix_append _ _)
  have htail : strip tail = strip (withoutTag (notes.getD "")).toList := by
    rw [strip_rdropWhile, strip_cons_blank (by decide)]
  simp only [decodeReadiness, Option.getD_some, hraw, if_pos hprefix, findIdx?_first tail hclose]
  have hlabel : ((front ++ ']' :: tail).take front.length).drop 11 = readiness.toList := by
    rw [List.take_left']
    · exact List.drop_left' rfl
    · rfl
  have hbehind : (front ++ ']' :: tail).drop (front.length + 1) = tail := by
    rw [← List.drop_drop, List.drop_left' rfl]
    rfl
  rw [hlabel, hbehind, String.ofList_toList, trim_eq, String.toList_ofList, htail, ← trim_eq]

theorem label_noClose (readiness : MerchantPaymentReadiness) : ']' ∉ readiness.label.toList := by
  cases readiness <;> decide

theorem decodeReadiness_noClose (status : MerchantPaymentConfigStatus) (notes : Option String) :
    ']' ∉ (decodeReadiness status notes).readiness.toList := by
  simp only [decodeReadiness]
  split
  · split
    · rename_i last hlast
      rw [String.toList_ofList]
      intro hmem
      obtain ⟨hbound, hat, hbefore⟩ := List.findIdx?_eq_some_iff_getElem.mp hlast
      obtain ⟨i, hi, hget⟩ := List.mem_iff_getElem.mp (List.mem_of_mem_drop hmem)
      rw [List.length_take] at hi
      rw [List.getElem_take] at hget
      simpa [hget] using hbefore i (by omega)
    · rw [String.toList_ofList]
      decide
  · exact label_noClose _

theorem trim_trim (text : String) : trim (trim text) = trim text := by
  rw [trim_eq, toList_trim, strip_strip, ← trim_eq]

theorem orNull_getD (text : String) : (orNull text).getD "" = text := by
  unfold orNull
  split
  · rename_i hblank
    exact hblank.symm
  · rfl

theorem orNull_inj (h : orNull a = orNull b) : a = b := by
  rw [← orNull_getD a, h, orNull_getD]

/-- What is written under a note that begins with no tag is read back. -/
theorem decodeReadiness_plain {readiness : String} (hclose : ']' ∉ readiness.toList)
    (status : MerchantPaymentConfigStatus) (notes : Option String)
    (h : ¬BeginsWithTag (trim (notes.getD ""))) :
    decodeReadiness status (some (encodeReadiness readiness notes)) =
      { readiness, notes := orNull (trim (notes.getD "")) } := by
  have hplain : ¬BeginsWithTag (notes.getD "") := fun htag => h (beginsWithTag_trim htag)
  rw [decodeReadiness_encodeReadiness hclose, withoutTag_of_not hplain]

-- ---
-- Writes
-- ---

/-- What a reader of the organisation's configuration is told. -/
def PaymentStore.decodedOf (orgId : Id) (s : PaymentStore) : Option Decoded :=
  (s.findConfig orgId).map fun found => found.2.decoded

inductive Write
  | connect (dto : ConnectMerchantPaymentDto)
  | update (dto : UpdateMerchantPaymentConfigDto)
  deriving Repr

def Write.call (orgId : Id) : Write → Service HttpError PaymentStore Shape
  | .connect dto => MerchantPaymentsService.connect orgId dto
  | .update dto => updateConfig orgId dto

/-- The note that the call writes behind the readiness, as it comes in. -/
def Write.note (orgId : Id) (s : PaymentStore) : Write → String
  | .connect dto => dto.notes.getD ""
  | .update dto => (dto.notes.or ((s.decodedOf orgId).bind (·.notes))).getD ""

theorem decoded_encodeReadiness {config : MerchantPaymentConfig} (hclose : ']' ∉ readiness.toList)
    (h : config.notes = some (encodeReadiness readiness notes)) :
    config.decoded = { readiness, notes := orNull (trim (withoutTag (notes.getD ""))) } := by
  rw [MerchantPaymentConfig.decoded, h, decodeReadiness_encodeReadiness hclose]

theorem decodedOf_upsert {rewrite : MerchantPaymentConfig → MerchantPaymentConfig}
    (hsame : ∀ config, (rewrite config).orgId = config.orgId) (hnew : new.orgId = orgId)
    (hdecoded : ∀ config, (rewrite config).decoded = d) (hfresh : new.decoded = d)
    (h : upsert orgId rewrite new s = .ok shown t) : t.decodedOf orgId = some d := by
  simp only [upsert, bind_ok, get_ok] at h
  obtain ⟨_, _, ⟨rfl, rfl⟩, h⟩ := h
  unfold PaymentStore.decodedOf PaymentStore.findConfig
  unfold PaymentStore.findConfig at h
  cases hfound : s.configs.findFirst fun _ config => config.orgId == orgId with
  | some found =>
    simp only [hfound, bind_ok, modify_ok, pure_ok] at h
    obtain ⟨_, _, rfl, _, rfl⟩ := h
    have hkept : ((rewrite found.2).orgId == orgId) = true := by
      rw [hsame]
      exact (Table.findFirst_some hfound).2
    rw [Table.findFirst_update_found hfound hkept, Option.map_some, hdecoded]
  | none =>
    simp only [hfound, bind_ok, modify_ok, pure_ok] at h
    obtain ⟨_, _, rfl, _, rfl⟩ := h
    simp [Table.findFirst_insert, hfound, hnew, hfresh]

theorem decodedOf_connect (h : connect orgId dto s = .ok shown t) :
    t.decodedOf orgId = some
      { readiness := (dto.readiness.getD .pendingMtn).label
        notes := orNull (trim (withoutTag (dto.notes.getD ""))) } := by
  simp only [connect, bind_ok, get_ok, ensure_ok] at h
  obtain ⟨_, _, ⟨rfl, rfl⟩, _, _, ⟨_, rfl⟩, h⟩ := h
  have hclose := label_noClose (dto.readiness.getD .pendingMtn)
  refine decodedOf_upsert ?_ ?_ ?_ ?_ h
  · exact fun _ => rfl
  · rfl
  · exact fun _ => decoded_encodeReadiness hclose rfl
  · exact decoded_encodeReadiness hclose rfl

/-- The calls of `updateConfig` on one organisation, one after the other. -/
def updated (orgId : Id) (s : PaymentStore) (dto : UpdateMerchantPaymentConfigDto) :
    PaymentStore :=
  final (updateConfig orgId dto s)

theorem decodedOf_updated (dto : UpdateMerchantPaymentConfigDto)
    (h : s.decodedOf orgId = some current) :
    (updated orgId s dto).decodedOf orgId = some
      { readiness := (dto.readiness.map (·.label)).getD current.readiness
        notes := orNull (trim (withoutTag ((dto.notes.or current.notes).getD ""))) } := by
  obtain ⟨⟨configId, config⟩, hfound, rfl⟩ := Option.map_eq_some_iff.mp h
  have hclose : ']' ∉ ((dto.readiness.map (·.label)).getD config.decoded.readiness).toList := by
    cases dto.readiness with
    | none => exact decodeReadiness_noClose _ _
    | some readiness => exact label_noClose readiness
  unfold PaymentStore.findConfig at hfound
  simp only [updated, updateConfig, final_get, PaymentStore.findConfig, hfound, final_need_some,
    final_bind_pure, final_modify]
  simp only [PaymentStore.decodedOf, PaymentStore.findConfig]
  rw [Table.findFirst_update_found hfound (Table.findFirst_some hfound).2, Option.map_some]
  exact congrArg some (decoded_encodeReadiness hclose rfl)

theorem decodedOf_update (h : updateConfig orgId dto s = .ok shown t) :
    ∃ current, s.decodedOf orgId = some current ∧ t = updated orgId s dto := by
  have ht : t = updated orgId s dto := by
    rw [updated, h]
    rfl
  simp only [updateConfig, bind_ok, get_ok, need_ok] at h
  obtain ⟨_, _, ⟨rfl, rfl⟩, found, _, ⟨hfound, -⟩, -⟩ := h
  exact ⟨found.2.decoded, by simp [PaymentStore.decodedOf, hfound], ht⟩

/-- What is read after a call that succeeds. -/
theorem decodedOf_write {write : Write} (h : write.call orgId s = .ok shown t) :
    ∃ readiness, t.decodedOf orgId = some
      { readiness, notes := orNull (trim (withoutTag (write.note orgId s))) } := by
  cases write with
  | connect dto => exact ⟨_, decodedOf_connect h⟩
  | update dto =>
    obtain ⟨current, hcurrent, rfl⟩ := decodedOf_update h
    refine ⟨(dto.readiness.map (·.label)).getD current.readiness, ?_⟩
    rw [decodedOf_updated dto hcurrent]
    simp only [Write.note, hcurrent, Option.bind_some]

-- ---
-- Updates that change nothing
-- ---

/-- The call leaves out the readiness and the note, or gives them as they are read. -/
def ChangesNothing (orgId : Id) (s : PaymentStore) (dto : UpdateMerchantPaymentConfigDto) : Prop :=
  ∀ current, s.decodedOf orgId = some current →
    (∀ readiness, dto.readiness = some readiness → readiness.label = current.readiness) ∧
      ∀ notes, dto.notes = some notes → notes = current.notes.getD ""

theorem decodedOf_unchanged {text : String} (hnothing : ChangesNothing orgId s dto)
    (h : s.decodedOf orgId = some { readiness, notes := orNull text }) :
    (updated orgId s dto).decodedOf orgId =
      some { readiness, notes := orNull (trim (withoutTag text)) } := by
  obtain ⟨hreadiness, hnotes⟩ := hnothing _ h
  have hlabel : (dto.readiness.map (·.label)).getD readiness = readiness := by
    cases hdto : dto.readiness with
    | none => rfl
    | some label => exact hreadiness label hdto
  have hnote : (dto.notes.or (orNull text)).getD "" = text := by
    cases hdto : dto.notes with
    | none => exact orNull_getD text
    | some note => exact (hnotes note hdto).trans (orNull_getD text)
  rw [decodedOf_updated dto h, hlabel, hnote]

theorem kept_of_plain {text : String} (htrim : trim text = text) (hplain : ¬BeginsWithTag text)
    (h : s.decodedOf orgId = some { readiness, notes := orNull text })
    (hrun : Run (updated orgId) (ChangesNothing orgId) s dtos t) :
    t.decodedOf orgId = s.decodedOf orgId := by
  refine hrun.invariant (I := fun u => u.decodedOf orgId = s.decodedOf orgId) rfl
    fun u dto ih hnothing => ?_
  rw [decodedOf_unchanged hnothing (ih.trans h), withoutTag_of_not hplain, htrim, h]

/-- A note is kept along updates that change nothing exactly if no tag is left in front of it once
the first has been taken off. -/
theorem readiness_notes {write : Write} (h : write.call orgId s = .ok shown written) :
    ((∀ (readiness : MerchantPaymentReadiness) notes status,
        ¬BeginsWithTag (trim (notes.getD "")) →
          decodeReadiness status (some (encodeReadiness readiness.label notes)) =
            { readiness := readiness.label, notes := orNull (trim (notes.getD "")) }) ∧
      ∀ dtos t, Run (updated orgId) (ChangesNothing orgId) written dtos t →
        t.decodedOf orgId = written.decodedOf orgId) ↔
      ¬BeginsWithTag (trim (withoutTag (write.note orgId s))) := by
  obtain ⟨readiness, hread⟩ := decodedOf_write h
  constructor
  · rintro ⟨-, hkept⟩ htag
    have hnothing : ChangesNothing orgId written {} := fun _ _ => ⟨by simp, by simp⟩
    have hafter := hkept _ _ (Run.nil.snoc hnothing)
    rw [decodedOf_unchanged hnothing hread, hread, Option.some.injEq, Decoded.mk.injEq] at hafter
    exact trim_withoutTag_ne htag (orNull_inj hafter.2)
  · intro hplain
    exact ⟨fun label notes status => decodeReadiness_plain (label_noClose label) status notes,
      fun dtos t hrun => kept_of_plain (trim_trim _) hplain hread hrun⟩

/-- A note without a tag is kept whatever the number of updates. -/
theorem readiness_notes_pilot :
    returned ((Write.connect { notes := some "pilot" }).call 1 {}) = true ∧
      ∀ dtos t, Run (updated 1) (ChangesNothing 1)
          (final ((Write.connect { notes := some "pilot" }).call 1 {})) dtos t →
        t.decodedOf 1 = some { readiness := "PENDING_MTN", notes := some "pilot" } := by
  have hcall : returned ((Write.connect { notes := some "pilot" }).call 1 {}) = true := by
    decide +kernel
  refine ⟨hcall, fun dtos t hrun => ?_⟩
  obtain ⟨shown, hwrite⟩ := ok_of_returned hcall
  have hplain : ¬BeginsWithTag
      (trim (withoutTag ((Write.connect { notes := some "pilot" }).note 1 {}))) := by
    decide +kernel
  refine (((readiness_notes hwrite).mpr hplain).2 dtos t hrun).trans ?_
  decide +kernel

/-- The tag of a note that starts with a blank is left in the row, and the next update takes it
off. -/
theorem second_tag_taken_off :
    let call := (Write.connect { notes := some " [readiness=LIVE] pilot" }).call 1 {}
    returned call = true ∧ ChangesNothing 1 (final call) {} ∧
      (final call).decodedOf 1 =
        some { readiness := "PENDING_MTN", notes := some "[readiness=LIVE] pilot" } ∧
      (updated 1 (final call) {}).decodedOf 1 =
        some { readiness := "PENDING_MTN", notes := some "pilot" } :=
  ⟨by decide +kernel, fun _ _ => ⟨by simp, by simp⟩, by decide +kernel, by decide +kernel⟩

end NimbusPos.MerchantPaymentsService
