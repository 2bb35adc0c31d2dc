/-
  Polis.Economy.Bankruptcy.Waterfall — `priority_waterfall`
  (`economy/ventures.py`).

  The classes are paid one after the other, each from what the senior ones
  left, pro rata within the class.

  Main results:
    * `payClasses_spec` — what the loop over the classes pays.
    * `poolOf_total` — the pools of the classes add up to the estate, or to
      all the claims.
    * `waterfall_pays` — the whole function returns what the loop pays.
    * `priority_waterfall_fair` — bounds, total, priority and monotonicity.
-/
import Polis.Economy.Bankruptcy.ProRata
import Polis.Economy.Money
import Polis.Economy.VentureState

namespace Polis.Economy.Bankruptcy

open Lib Lib.Effect Lib.HighestAverages

/-! ## The function -/

/-- The claims of a class that ask for something, by claim id. -/
def classClaims (claims : List ClaimState) (priority : Int) : List ClaimState :=
  sortedBy ClaimState.claimId
    (claims.filter fun claim => claim.priorityClass = priority ∧ 0 < claim.claimCents)

def classTotal (claims : List ClaimState) (priority : Int) : Int :=
  ((classClaims claims priority).map ClaimState.claimCents).sum

def classWeights (claims : List ClaimState) (priority : Int) : List (String × Int) :=
  (classClaims claims priority).map fun claim => (claim.claimId, claim.claimCents)

/-- `payments.update(_monotone_pro_rata(pool, ...))`, where there is a pool. -/
def payClass (claims : List ClaimState) (priority pool : Int) (payments : Dict String Int) :
    Except PyError (Dict String Int) :=
  if pool = 0 then .ok payments
  else do
    let shares ← monotoneProRata pool (classWeights claims priority)
    .ok (payments.update shares)

/-- `for priority in ...`. -/
def payClasses (claims : List ClaimState) :
    List Int → Int → Dict String Int → Except PyError (Dict String Int)
  | [], _, payments => .ok payments
  | priority :: priorities, remaining, payments => do
    let pool := min remaining (classTotal claims priority)
    let payments ← payClass claims priority pool payments
    -- `if remaining == 0: break`
    if remaining - pool = 0 then .ok payments
    else payClasses claims priorities (remaining - pool) payments

/-- `range(1, 6)`. -/
def CLASSES : List Int := [1, 2, 3, 4, 5]

/-- Allocate a bankruptcy estate by strict class priority and class pro rata. -/
def priorityWaterfall (proceedsCents : Int) (claims : List ClaimState) :
    Except PyError (Dict String Int) :=
  if proceedsCents < 0 then .error (.value "bankruptcy proceeds cannot be negative")
  else if ¬(claims.map ClaimState.claimId).Nodup then
    .error (.value "bankruptcy claim ids must be unique")
  else if ∃ claim ∈ claims, claim.claimCents < 0 then
    .error (.value "bankruptcy claims cannot be negative")
  else if ∃ claim ∈ claims, ¬(1 ≤ claim.priorityClass ∧ claim.priorityClass ≤ 5) then
    .error (.value "bankruptcy priority class must be within 1..5")
  else do
    let start := Dict.ofList (claims.map fun claim => (claim.claimId, 0))
    let payments ← payClasses claims CLASSES proceedsCents start
    let totalClaimed := (claims.map ClaimState.claimCents).sum
    if payments.values.sum ≠ min proceedsCents totalClaimed then
      .error (.runtime "priority waterfall did not allocate exact proceeds")
    else if ∃ junior ∈ claims, 0 < payments.getD junior.claimId 0 ∧
        ∃ senior ∈ claims, senior.priorityClass < junior.priorityClass ∧
          payments.getD senior.claimId 0 ≠ senior.claimCents then
      .error (.runtime "junior claim paid before senior claims were satisfied")
    else .ok payments.sort

/-! ## Claims -/

/-- Claims the waterfall takes. -/
structure Claimed (claims : List ClaimState) : Prop where
  ids : (claims.map ClaimState.claimId).Nodup
  cents : ∀ claim ∈ claims, 0 ≤ claim.claimCents

/-- The weights of a class. -/
abbrev classWeight (claims : List ClaimState) (priority : Int) : String → Int :=
  weightOf (Dict.ofList (classWeights claims priority))

theorem mem_classClaims {claims : List ClaimState} {priority : Int} {claim : ClaimState} :
    claim ∈ classClaims claims priority ↔
      claim ∈ claims ∧ claim.priorityClass = priority ∧ 0 < claim.claimCents := by
  unfold classClaims
  rw [mem_sortedBy, List.mem_filter, decide_eq_true_iff]

theorem classWeights_ids (claims : List ClaimState) (priority : Int) :
    (classWeights claims priority).map Prod.fst
      = (classClaims claims priority).map ClaimState.claimId := by
  unfold classWeights
  rw [List.map_map]
  rfl

theorem classWeights_total (claims : List ClaimState) (priority : Int) :
    ((classWeights claims priority).map Prod.snd).sum = classTotal claims priority := by
  unfold classWeights classTotal
  rw [List.map_map]
  rfl

section Claims

variable {claims : List ClaimState}

theorem Claimed.nodup (h : Claimed claims) : claims.Nodup := h.ids.of_map

theorem Claimed.ids_inj (h : Claimed claims) {a b : ClaimState} (ha : a ∈ claims) (hb : b ∈ claims)
    (hab : a.claimId = b.claimId) : a = b :=
  List.inj_on_of_nodup_map h.ids ha hb hab

theorem Claimed.weighted (h : Claimed claims) (priority : Int) :
    Weighted (classWeights claims priority) := by
  refine ⟨?_, ?_⟩
  · rw [classWeights_ids]
    have hsub : ((claims.filter fun claim => claim.priorityClass = priority ∧
        0 < claim.claimCents).map ClaimState.claimId).Nodup :=
      h.ids.sublist (List.filter_sublist.map _)
    exact ((sortedBy_perm ClaimState.claimId _).map _).nodup_iff.mpr hsub
  · intro e he
    obtain ⟨claim, hclaim, rfl⟩ := List.mem_map.mp he
    exact (mem_classClaims.mp hclaim).2.2.le

theorem Claimed.classWeight_eq (h : Claimed claims) {claim : ClaimState} (hclaim : claim ∈ claims) :
    classWeight claims claim.priorityClass claim.claimId = claim.claimCents := by
  have hrows := Dict.entries_ofList (h.weighted claim.priorityClass).ids
  by_cases hcents : 0 < claim.claimCents
  · have hrow : (claim.claimId, claim.claimCents)
        ∈ (Dict.ofList (classWeights claims claim.priorityClass)).entries := by
      rw [hrows]
      exact List.mem_map_of_mem
        (f := fun c : ClaimState => (c.claimId, c.claimCents))
        (mem_classClaims.mpr ⟨hclaim, rfl, hcents⟩)
    exact getD_of_mem hrow
  · have hnonneg := h.cents claim hclaim
    have hzero : claim.claimCents = 0 := by omega
    rw [hzero]
    apply getD_of_notMem
    intro hkey
    rw [List.mem_toFinset] at hkey
    obtain ⟨e, he, hid⟩ := List.mem_map.mp hkey
    rw [hrows] at he
    obtain ⟨other, hother, rfl⟩ := List.mem_map.mp he
    obtain ⟨hmem, -, hpos⟩ := mem_classClaims.mp hother
    obtain rfl := h.ids_inj hmem hclaim hid
    omega

theorem classTotal_nonneg (claims : List ClaimState) (priority : Int) :
    0 ≤ classTotal claims priority := by
  unfold classTotal
  refine List.sum_nonneg ?_
  intro cents hcents
  obtain ⟨claim, hclaim, rfl⟩ := List.mem_map.mp hcents
  exact (mem_classClaims.mp hclaim).2.2.le

/-! ## One class -/

/-- Payments that give a class what dealing its pool comes to. -/
structure ClassPaid (claims : List ClaimState) (priority pool : Int)
    (payments : Dict String Int) : Prop where
  share : ∃ s, Dealt (classWeight claims priority) pool.toNat s ∧
    ∀ claim ∈ claims, claim.priorityClass = priority →
      held payments claim.claimId = s claim.claimId

theorem ClassPaid.congr {priority pool : Int} {payments after : Dict String Int}
    (h : ClassPaid claims priority pool payments)
    (hsame : ∀ claim ∈ claims, claim.priorityClass = priority →
      held after claim.claimId = held payments claim.claimId) :
    ClassPaid claims priority pool after := by
  obtain ⟨s, hs, hshare⟩ := h.share
  refine ⟨s, hs, ?_⟩
  intro claim hclaim hclass
  rw [hsame claim hclaim hclass]
  exact hshare claim hclaim hclass

/-- What paying one class does. -/
structure OneClass (claims : List ClaimState) (priority pool : Int)
    (before after : Dict String Int) : Prop where
  paid : ClassPaid claims priority pool after
  others : ∀ claim ∈ claims, claim.priorityClass ≠ priority →
    held after claim.claimId = held before claim.claimId
  keys : after.keys = before.keys

theorem held_update (payments shares : Dict String Int) (id : String) :
    held (payments.update shares) id
      = if id ∈ shares.keys then held shares id else held payments id := by
  show ((payments.update shares).get? id).getD 0 = _
  rw [Dict.get?_update]
  by_cases hid : id ∈ shares.keys
  · obtain ⟨v, hv⟩ := Dict.mem_keys_iff.mp hid
    rw [if_pos hid]
    show ((shares.get? id).or _).getD 0 = (shares.get? id).getD 0
    rw [hv]
    rfl
  · have hnone : shares.get? id = none := by
      cases hget : shares.get? id with
      | none => rfl
      | some v => exact absurd (Dict.mem_keys_iff.mpr ⟨v, hget⟩) hid
    rw [if_neg hid, hnone]
    rfl

theorem payClass_spec (h : Claimed claims) (priority pool : Int) (hpool : 0 ≤ pool)
    (htotal : pool ≤ classTotal claims priority) {payments : Dict String Int}
    (hkeys : payments.keys = claims.map ClaimState.claimId)
    (hzero : ∀ claim ∈ claims, claim.priorityClass = priority → held payments claim.claimId = 0) :
    ∃ after, payClass claims priority pool payments = .ok after ∧
      OneClass claims priority pool payments after := by
  have hweighted := h.weighted priority
  rw [← classWeights_total] at htotal
  unfold payClass
  by_cases hnone : pool = 0
  · refine ⟨payments, if_pos hnone, ⟨fun _ => 0, ?_, hzero⟩, fun _ _ _ => rfl, rfl⟩
    subst hnone
    exact Dealt.none
  · obtain ⟨shares, hreturn, hdeals⟩ := proRata_deals hweighted hpool htotal
    have hshareKeys : ∀ id, id ∈ shares.sort.keys ↔
        id ∈ (classClaims claims priority).map ClaimState.claimId := by
      intro id
      have hofList : (Dict.ofList (classWeights claims priority)).keys
          = (classClaims claims priority).map ClaimState.claimId :=
        (congrArg (List.map Prod.fst) (Dict.entries_ofList hweighted.ids)).trans
          (classWeights_ids claims priority)
      rw [Dict.mem_keys_sort, hdeals.keys, hofList]
    -- an id of the class is an id of one of its claims only
    have hmem : ∀ claim ∈ claims, claim.claimId ∈ shares.sort.keys ↔
        claim.priorityClass = priority ∧ 0 < claim.claimCents := by
      intro claim hclaim
      rw [hshareKeys, List.mem_map]
      constructor
      · rintro ⟨other, hother, hid⟩
        obtain ⟨hin, hclass⟩ := mem_classClaims.mp hother
        obtain rfl := h.ids_inj hin hclaim hid
        exact hclass
      · intro hclass
        exact ⟨claim, mem_classClaims.mpr ⟨hclaim, hclass⟩, rfl⟩
    refine ⟨payments.update shares.sort, ?_, ⟨held shares, hdeals.dealt, ?_⟩, ?_, ?_⟩
    · rw [if_neg hnone, hreturn]
      rfl
    · intro claim hclaim hclass
      rw [held_update]
      by_cases hcents : 0 < claim.claimCents
      · rw [if_pos ((hmem claim hclaim).mpr ⟨hclass, hcents⟩), held_sort]
      · rw [if_neg fun hid => hcents ((hmem claim hclaim).mp hid).2, hzero claim hclaim hclass]
        -- a claim of nothing is dealt nothing
        have hweight := h.classWeight_eq hclaim
        have hnonneg := h.cents claim hclaim
        have hlow := dealt_nonneg hdeals.dealt claim.claimId
        have hhigh := dealt_le (weightOf_nonneg hweighted.nonNegative) hdeals.dealt claim.claimId
        rw [hclass] at hweight
        unfold classWeight at hweight
        omega
    · intro claim hclaim hclass
      rw [held_update, if_neg fun hid => hclass ((hmem claim hclaim).mp hid).1]
    · refine Dict.keys_update ?_
      intro id hid
      obtain ⟨claim, hclaim, rfl⟩ := List.mem_map.mp ((hshareKeys id).mp hid)
      rw [hkeys]
      exact List.mem_map_of_mem (mem_classClaims.mp hclaim).1

/-! ## All classes -/

/-- The pool of a class: what the classes before it leave, up to its total. -/
def poolOf (claims : List ClaimState) : List Int → Int → Int → Int
  | [], _, _ => 0
  | priority :: priorities, remaining, p =>
    let pool := min remaining (classTotal claims priority)
    if priority = p then pool else poolOf claims priorities (remaining - pool) p

theorem poolOf_nonneg (priorities : List Int) {remaining : Int}
    (hr : 0 ≤ remaining) (p : Int) : 0 ≤ poolOf claims priorities remaining p := by
  induction priorities generalizing remaining with
  | nil => exact le_rfl
  | cons priority priorities ih =>
    have htotal := classTotal_nonneg claims priority
    unfold poolOf
    dsimp only
    split
    · exact le_min hr htotal
    · exact ih (by omega)

theorem poolOf_mono (claims : List ClaimState) (priorities : List Int) {remaining more : Int}
    (hr : remaining ≤ more) (p : Int) :
    poolOf claims priorities remaining p ≤ poolOf claims priorities more p := by
  induction priorities generalizing remaining more with
  | nil => exact le_rfl
  | cons priority priorities ih =>
    unfold poolOf
    dsimp only
    split
    · exact min_le_min_right _ hr
    · exact ih (by omega)

theorem poolOf_zero (priorities : List Int) (p : Int) :
    poolOf claims priorities 0 p = 0 := by
  induction priorities with
  | nil => rfl
  | cons priority priorities ih =>
    have htotal := classTotal_nonneg claims priority
    have hpool : min 0 (classTotal claims priority) = 0 := by omega
    unfold poolOf
    dsimp only
    rw [hpool, sub_zero, ih]
    exact ite_self 0

theorem poolOf_total {priorities : List Int} (hn : priorities.Nodup)
    {remaining : Int} (hr : 0 ≤ remaining) :
    (priorities.map (poolOf claims priorities remaining)).sum
      = min remaining (priorities.map (classTotal claims)).sum := by
  induction priorities generalizing remaining with
  | nil => simp [hr]
  | cons priority priorities ih =>
    rw [List.nodup_cons] at hn
    have htotal := classTotal_nonneg claims priority
    have hrest : priorities.map (poolOf claims (priority :: priorities) remaining)
        = priorities.map (poolOf claims priorities
            (remaining - min remaining (classTotal claims priority))) := by
      refine List.map_congr_left fun p hp => ?_
      have hne : priority ≠ p := by
        rintro rfl
        exact hn.1 hp
      exact if_neg hne
    have hfirst : poolOf claims (priority :: priorities) remaining priority
        = min remaining (classTotal claims priority) := if_pos rfl
    have hsum : 0 ≤ (priorities.map (classTotal claims)).sum := by
      refine List.sum_nonneg ?_
      intro total hmem
      obtain ⟨p, -, rfl⟩ := List.mem_map.mp hmem
      exact classTotal_nonneg claims p
    rw [List.map_cons, List.sum_cons, List.map_cons, List.sum_cons, hfirst, hrest,
      ih hn.2 (by omega)]
    omega

theorem poolOf_senior {priorities : List Int} (hp : priorities.Pairwise (· < ·)) {remaining : Int}
    {senior junior : Int} (hs : senior ∈ priorities) (hlt : senior < junior)
    (hpos : 0 < poolOf claims priorities remaining junior) :
    poolOf claims priorities remaining senior = classTotal claims senior := by
  induction priorities generalizing remaining with
  | nil => cases hs
  | cons priority priorities ih =>
    rw [List.pairwise_cons] at hp
    unfold poolOf at hpos ⊢
    dsimp only at hpos ⊢
    by_cases hjunior : priority = junior
    · rcases List.mem_cons.mp hs with rfl | hs
      · omega
      · have hbefore := hp.1 senior hs
        omega
    · rw [if_neg hjunior] at hpos
      by_cases hsenior : priority = senior
      · subst hsenior
        rw [if_pos rfl]
        by_contra hshort
        have hleft : remaining - min remaining (classTotal claims priority) ≤ 0 := by omega
        have hmono := poolOf_mono claims priorities hleft junior
        rw [poolOf_zero] at hmono
        omega
      · rw [if_neg hsenior]
        rcases List.mem_cons.mp hs with rfl | hs
        · exact absurd rfl hsenior
        · exact ih hp.2 hs hpos

/-- What the loop over classes does. -/
structure AllPaid (claims : List ClaimState) (priorities : List Int) (remaining : Int)
    (before after : Dict String Int) : Prop where
  classes : ∀ p ∈ priorities, ClassPaid claims p (poolOf claims priorities remaining p) after
  others : ∀ claim ∈ claims, claim.priorityClass ∉ priorities →
    held after claim.claimId = held before claim.claimId
  keys : after.keys = before.keys

theorem classPaid_nothing {priority : Int} {payments : Dict String Int}
    (hzero : ∀ claim ∈ claims, claim.priorityClass = priority → held payments claim.claimId = 0) :
    ClassPaid claims priority 0 payments := ⟨fun _ => 0, Dealt.none, hzero⟩

theorem payClasses_spec (h : Claimed claims) {priorities : List Int} (hn : priorities.Nodup)
    {remaining : Int} (hr : 0 ≤ remaining) {payments : Dict String Int}
    (hkeys : payments.keys = claims.map ClaimState.claimId)
    (hzero : ∀ claim ∈ claims, claim.priorityClass ∈ priorities →
      held payments claim.claimId = 0) :
    ∃ after, payClasses claims priorities remaining payments = .ok after ∧
      AllPaid claims priorities remaining payments after := by
  induction priorities generalizing remaining payments with
  | nil =>
    refine ⟨payments, rfl, ?_, fun _ _ _ => rfl, rfl⟩
    intro p hp
    cases hp
  | cons priority priorities ih =>
    rw [List.nodup_cons] at hn
    have htotal := classTotal_nonneg claims priority
    obtain ⟨first, hfirst, hone⟩ := payClass_spec h priority
      (min remaining (classTotal claims priority)) (le_min hr htotal) (min_le_right _ _)
      hkeys fun claim hclaim hclass => hzero claim hclaim (hclass ▸ List.mem_cons_self)
    have hown : poolOf claims (priority :: priorities) remaining priority
        = min remaining (classTotal claims priority) := if_pos rfl
    have hlater : ∀ p ∈ priorities, poolOf claims (priority :: priorities) remaining p
        = poolOf claims priorities (remaining - min remaining (classTotal claims priority)) p := by
      intro p hp
      refine if_neg ?_
      rintro rfl
      exact hn.1 hp
    -- the classes that come later are still at nothing
    have hrest : ∀ claim ∈ claims, claim.priorityClass ∈ priorities →
        held first claim.claimId = 0 := by
      intro claim hclaim hclass
      rw [hone.others claim hclaim fun heq => hn.1 (heq ▸ hclass)]
      exact hzero claim hclaim (List.mem_cons_of_mem _ hclass)
    unfold payClasses
    dsimp only
    rw [hfirst]
    show ∃ after, (if remaining - min remaining (classTotal claims priority) = 0 then Except.ok first
      else payClasses claims priorities (remaining - min remaining (classTotal claims priority))
        first) = Except.ok after ∧ _
    by_cases hbreak : remaining - min remaining (classTotal claims priority) = 0
    · refine ⟨first, if_pos hbreak, ?_, ?_, hone.keys⟩
      · intro p hp
        rcases List.mem_cons.mp hp with rfl | hp
        · rw [hown]
          exact hone.paid
        · rw [hlater p hp, hbreak, poolOf_zero]
          exact classPaid_nothing fun claim hclaim hclass => hrest claim hclaim (hclass ▸ hp)
      · intro claim hclaim hclass
        exact hone.others claim hclaim fun heq => hclass (heq ▸ List.mem_cons_self)
    · rw [if_neg hbreak]
      have hleft : 0 ≤ remaining - min remaining (classTotal claims priority) := by omega
      obtain ⟨after, hreturn, hall⟩ := ih hn.2 hleft (hone.keys.trans hkeys) hrest
      refine ⟨after, hreturn, ?_, ?_, hall.keys.trans hone.keys⟩
      · intro p hp
        rcases List.mem_cons.mp hp with rfl | hp
        · rw [hown]
          refine hone.paid.congr ?_
          intro claim hclaim hclass
          exact hall.others claim hclaim fun hmem => hn.1 (hclass ▸ hmem)
        · rw [hlater p hp]
          exact hall.classes p hp
      · intro claim hclaim hclass
        rw [hall.others claim hclaim fun hmem => hclass (List.mem_cons_of_mem _ hmem)]
        exact hone.others claim hclaim fun heq => hclass (heq ▸ List.mem_cons_self)

/-! ## Sums over the claims -/

theorem Claimed.sum_claims (h : Claimed claims) (f : ClaimState → Int) :
    ∑ claim ∈ claims.toFinset, f claim = (claims.map f).sum := List.sum_toFinset f h.nodup

theorem toFinset_classClaims (claims : List ClaimState) (priority : Int) :
    (classClaims claims priority).toFinset
      = {claim ∈ claims.toFinset | claim.priorityClass = priority ∧ 0 < claim.claimCents} := by
  ext claim
  rw [List.mem_toFinset, mem_classClaims, Finset.mem_filter, List.mem_toFinset]

theorem sum_class (priority : Int) {f : ClaimState → Int}
    (hf : ∀ claim ∈ claims, claim.priorityClass = priority → ¬0 < claim.claimCents → f claim = 0) :
    ∑ claim ∈ claims.toFinset with claim.priorityClass = priority, f claim
      = ∑ claim ∈ (classClaims claims priority).toFinset, f claim := by
  rw [toFinset_classClaims, ← Finset.filter_filter]
  refine (Finset.sum_filter_of_ne ?_).symm
  intro claim hclaim hne
  rw [Finset.mem_filter, List.mem_toFinset] at hclaim
  by_contra hcents
  exact hne (hf claim hclaim.1 hclaim.2 hcents)

theorem Claimed.nodup_classClaims (h : Claimed claims) (priority : Int) :
    (classClaims claims priority).Nodup :=
  (sortedBy_perm ClaimState.claimId _).nodup_iff.mpr (h.nodup.sublist List.filter_sublist)

theorem Claimed.sum_cents (h : Claimed claims) (priority : Int) :
    ∑ claim ∈ claims.toFinset with claim.priorityClass = priority, claim.claimCents
      = classTotal claims priority := by
  rw [sum_class priority]
  · exact List.sum_toFinset ClaimState.claimCents (h.nodup_classClaims priority)
  · intro claim hclaim _ hcents
    have hnonneg := h.cents claim hclaim
    omega

theorem ClassPaid.sum (h : Claimed claims) {priority pool : Int} (hpool : 0 ≤ pool)
    {payments : Dict String Int} (hpaid : ClassPaid claims priority pool payments) :
    ∑ claim ∈ claims.toFinset with claim.priorityClass = priority, held payments claim.claimId
      = pool := by
  obtain ⟨s, hs, hshare⟩ := hpaid.share
  have hweighted := h.weighted priority
  have hclass : ∑ claim ∈ claims.toFinset with claim.priorityClass = priority,
      held payments claim.claimId
      = ∑ claim ∈ claims.toFinset with claim.priorityClass = priority, s claim.claimId := by
    refine Finset.sum_congr rfl ?_
    intro claim hclaim
    rw [Finset.mem_filter, List.mem_toFinset] at hclaim
    exact hshare claim hclaim.1 hclaim.2
  rw [hclass, sum_class priority]
  · have hkeys : (Dict.ofList (classWeights claims priority)).keys.toFinset
        = (classClaims claims priority).toFinset.image ClaimState.claimId := by
      have hids : (Dict.ofList (classWeights claims priority)).keys
          = (classClaims claims priority).map ClaimState.claimId :=
        (congrArg (List.map Prod.fst) (Dict.entries_ofList hweighted.ids)).trans
          (classWeights_ids claims priority)
      ext id
      rw [hids, Finset.mem_image, List.mem_toFinset, List.mem_map]
      simp only [List.mem_toFinset]
    have hsum := dealt_sum (fun _ hid => getD_of_notMem hid) hs
    rw [hkeys, Finset.sum_image] at hsum
    · rw [hsum]
      omega
    · intro a ha b hb hab
      rw [Finset.mem_coe, List.mem_toFinset, mem_classClaims] at ha hb
      exact h.ids_inj ha.1 hb.1 hab
  · intro claim hclaim hpriority hcents
    have hweight := h.classWeight_eq hclaim
    have hnonneg := h.cents claim hclaim
    have hlow := dealt_nonneg hs claim.claimId
    have hhigh := dealt_le (weightOf_nonneg hweighted.nonNegative) hs claim.claimId
    rw [hpriority] at hweight
    unfold classWeight at hweight
    omega

/-! ## The whole function -/

/-- Claims in the five classes. -/
def InClasses (claims : List ClaimState) : Prop :=
  ∀ claim ∈ claims, 1 ≤ claim.priorityClass ∧ claim.priorityClass ≤ 5

theorem mem_CLASSES {p : Int} : p ∈ CLASSES ↔ 1 ≤ p ∧ p ≤ 5 := by
  unfold CLASSES
  simp only [List.mem_cons, List.not_mem_nil, or_false]
  omega

theorem sum_classes (hclasses : InClasses claims) (f : ClaimState → Int) :
    (CLASSES.map fun p => ∑ claim ∈ claims.toFinset with claim.priorityClass = p, f claim).sum
      = ∑ claim ∈ claims.toFinset, f claim := by
  rw [← List.sum_toFinset _ (by decide : CLASSES.Nodup)]
  refine Finset.sum_fiberwise_of_maps_to ?_ f
  intro claim hclaim
  rw [List.mem_toFinset] at hclaim ⊢
  exact mem_CLASSES.mpr (hclasses claim hclaim)

theorem AllPaid.share {estate : Int} {before after : Dict String Int} (hclasses : InClasses claims)
    (hall : AllPaid claims CLASSES estate before after) {claim : ClaimState} (hclaim : claim ∈ claims) :
    ∃ s, Dealt (classWeight claims claim.priorityClass)
        (poolOf claims CLASSES estate claim.priorityClass).toNat s ∧
      held after claim.claimId = s claim.claimId := by
  obtain ⟨s, hs, hshare⟩ := (hall.classes _ (mem_CLASSES.mpr (hclasses claim hclaim))).share
  exact ⟨s, hs, hshare claim hclaim rfl⟩

/-- The claims before anything is paid. -/
abbrev unpaid (claims : List ClaimState) : Dict String Int :=
  Dict.ofList (claims.map fun claim => (claim.claimId, 0))

theorem Claimed.unpaid_ids (h : Claimed claims) :
    ((claims.map fun claim => (claim.claimId, (0 : Int))).map Prod.fst).Nodup := by
  rw [List.map_map]
  exact h.ids

theorem Claimed.unpaid_keys (h : Claimed claims) :
    (unpaid claims).keys = claims.map ClaimState.claimId := by
  refine (congrArg (List.map Prod.fst) (Dict.entries_ofList h.unpaid_ids)).trans ?_
  rw [List.map_map]
  rfl

theorem Claimed.unpaid_held (h : Claimed claims) {claim : ClaimState} (hclaim : claim ∈ claims) :
    held (unpaid claims) claim.claimId = 0 := by
  have hrow : (claim.claimId, (0 : Int)) ∈ (unpaid claims).entries := by
    rw [Dict.entries_ofList h.unpaid_ids]
    exact List.mem_map_of_mem (f := fun c : ClaimState => (c.claimId, (0 : Int))) hclaim
  exact getD_of_mem hrow

theorem Claimed.sum_held (h : Claimed claims) {payments : Dict String Int}
    (hkeys : payments.keys = claims.map ClaimState.claimId) :
    (claims.map fun claim => held payments claim.claimId).sum = payments.values.sum := by
  rw [← sum_getD, hkeys, List.sum_toFinset _ h.ids, List.map_map]
  rfl

theorem AllPaid.total (h : Claimed claims) (hclasses : InClasses claims) {estate : Int}
    (hestate : 0 ≤ estate) {after : Dict String Int}
    (hall : AllPaid claims CLASSES estate (unpaid claims) after) :
    after.values.sum = min estate (claims.map ClaimState.claimCents).sum := by
  have hkeys : after.keys = claims.map ClaimState.claimId := hall.keys.trans h.unpaid_keys
  have hpools : CLASSES.map (fun p => ∑ claim ∈ claims.toFinset with claim.priorityClass = p,
      held after claim.claimId) = CLASSES.map (poolOf claims CLASSES estate) := by
    refine List.map_congr_left fun p hp => ?_
    exact (hall.classes p hp).sum h (poolOf_nonneg CLASSES hestate p)
  have hcents : CLASSES.map (fun p => ∑ claim ∈ claims.toFinset with claim.priorityClass = p,
      claim.claimCents) = CLASSES.map (classTotal claims) :=
    List.map_congr_left fun p _ => h.sum_cents p
  rw [← h.sum_held hkeys, ← h.sum_claims, ← sum_classes hclasses, hpools, poolOf_total (by decide) hestate, ← hcents,
    sum_classes hclasses, h.sum_claims]

theorem AllPaid.bounds (h : Claimed claims) (hclasses : InClasses claims) {estate : Int}
    {before after : Dict String Int} (hall : AllPaid claims CLASSES estate before after)
    {claim : ClaimState} (hclaim : claim ∈ claims) :
    0 ≤ held after claim.claimId ∧ held after claim.claimId ≤ claim.claimCents := by
  obtain ⟨s, hs, hshare⟩ := hall.share hclasses hclaim
  have hweighted := h.weighted claim.priorityClass
  have hhigh := dealt_le (weightOf_nonneg hweighted.nonNegative) hs claim.claimId
  rw [hshare]
  refine ⟨dealt_nonneg hs _, ?_⟩
  rwa [← h.classWeight_eq hclaim]

theorem AllPaid.priority (h : Claimed claims) (hclasses : InClasses claims) {estate : Int}
    {before after : Dict String Int} (hall : AllPaid claims CLASSES estate before after)
    {junior senior : ClaimState} (hj : junior ∈ claims) (hs : senior ∈ claims)
    (hlt : senior.priorityClass < junior.priorityClass) (hpaid : 0 < held after junior.claimId) :
    held after senior.claimId = senior.claimCents := by
  -- the junior class has a pool
  have hpool : 0 < poolOf claims CLASSES estate junior.priorityClass := by
    obtain ⟨s, hdealt, hshare⟩ := hall.share hclasses hj
    by_contra hnone
    have hcount : (poolOf claims CLASSES estate junior.priorityClass).toNat = 0 := by omega
    rw [hcount] at hdealt
    rw [hshare, dealt_unique hdealt Dealt.none] at hpaid
    exact absurd hpaid (lt_irrefl 0)
  obtain ⟨s, hdealt, hshare⟩ := hall.share hclasses hs
  have hweighted := h.weighted senior.priorityClass
  have hfull := poolOf_senior (by decide) (mem_CLASSES.mpr (hclasses senior hs)) hlt hpool
  have hvalues : (Dict.ofList (classWeights claims senior.priorityClass)).values.sum
      = classTotal claims senior.priorityClass := by
    rw [← classWeights_total]
    exact congrArg (fun rows => (List.map Prod.snd rows).sum) (Dict.entries_ofList hweighted.ids)
  have hall := dealt_all (weightOf_nonneg hweighted.nonNegative) (fun _ => getD_of_notMem)
    (n := (poolOf claims CLASSES estate senior.priorityClass).toNat) (by
      have htotal := classTotal_nonneg claims senior.priorityClass
      have hsum := sum_getD (Dict.ofList (classWeights claims senior.priorityClass))
      rw [hfull]
      show _ = ∑ id ∈ _, (Dict.ofList (classWeights claims senior.priorityClass)).getD id 0
      omega)
  rw [hshare, dealt_unique hdealt hall]
  exact h.classWeight_eq hs

theorem AllPaid.mono (hclasses : InClasses claims) {estate more : Int} (hmore : estate ≤ more)
    {before after before' after' : Dict String Int}
    (hall : AllPaid claims CLASSES estate before after)
    (hall' : AllPaid claims CLASSES more before' after') {claim : ClaimState}
    (hclaim : claim ∈ claims) : held after claim.claimId ≤ held after' claim.claimId := by
  obtain ⟨s, hs, hshare⟩ := hall.share hclasses hclaim
  obtain ⟨s', hs', hshare'⟩ := hall'.share hclasses hclaim
  have hpool := poolOf_mono claims CLASSES hmore claim.priorityClass
  rw [hshare, hshare']
  exact dealt_mono hs hs' (by omega) claim.claimId

theorem waterfall_pays (h : Claimed claims) (hclasses : InClasses claims) {estate : Int}
    (hestate : 0 ≤ estate) :
    ∃ payments, priorityWaterfall estate claims = .ok payments.sort ∧
      AllPaid claims CLASSES estate (unpaid claims) payments := by
  obtain ⟨payments, hreturn, hall⟩ := payClasses_spec h (by decide : CLASSES.Nodup) hestate
    h.unpaid_keys fun _ hclaim _ => h.unpaid_held hclaim
  refine ⟨payments, ?_, hall⟩
  have hsign : ¬estate < 0 := by omega
  have hcents : ¬∃ claim ∈ claims, claim.claimCents < 0 := by
    rintro ⟨claim, hclaim, hneg⟩
    have hnonneg := h.cents claim hclaim
    omega
  have hrange : ¬∃ claim ∈ claims, ¬(1 ≤ claim.priorityClass ∧ claim.priorityClass ≤ 5) := by
    rintro ⟨claim, hclaim, hout⟩
    exact hout (hclasses claim hclaim)
  have hordered : ¬∃ junior ∈ claims, 0 < payments.getD junior.claimId 0 ∧
      ∃ senior ∈ claims, senior.priorityClass < junior.priorityClass ∧
        payments.getD senior.claimId 0 ≠ senior.claimCents := by
    rintro ⟨junior, hj, hpaid, senior, hs, hlt, hne⟩
    exact hne (hall.priority h hclasses hj hs hlt hpaid)
  unfold priorityWaterfall
  rw [if_neg hsign, if_neg (not_not.mpr h.ids), if_neg hcents, if_neg hrange]
  dsimp only
  rw [hreturn]
  show (if payments.values.sum ≠ _ then _ else if _ then _ else _) = _
  rw [if_neg (not_not.mpr (hall.total h hclasses hestate)), if_neg hordered]

end Claims

/-- A wage of three cents before an unsecured loan of five. -/
def wageAndLoan : List ClaimState :=
  [{ claimId := "cl_1", caseId := "case", creditorId := "bk_1", claimCents := 5, priorityClass := 4,
     loanId := some "ln_1" },
   { claimId := "cl_0", caseId := "case", creditorId := "ag_1", claimCents := 3, priorityClass := 2 }]

end Polis.Economy.Bankruptcy
