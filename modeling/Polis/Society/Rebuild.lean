/-
  Polis.Society.Rebuild — rebuilding the society read models
  (`store/rebuild.py` with the projections of `society/projections.py`).

  A rebuild deletes the rows of the tables the projections own and replays
  the stored events.  A conviction counts on a table that none of them owns,
  and a rebuild from a later tick replays less than it deleted.

  Main results:
    * `replay_agree` — the owned tables depend on the events alone.
    * `replay_agents` — a replay counts every conviction, again.
    * `rebuild_agrees_iff` — when all rebuilds give the live tables.
-/
import Polis.Society.Shapes

namespace Polis.Society

open Lib.Sql Polis.Events Polis.Store

/-! ## Loops -/

theorem eachOk_rel {α : Type} {R : Tables → Tables → Prop} (hrefl : ∀ db, R db db)
    (htrans : ∀ a b c, R a b → R b c → R a c) {f : α → Tables → Except PyError Tables}
    {xs : List α} (hf : ∀ x ∈ xs, ∀ a b, f x a = .ok b → R a b) {a b : Tables}
    (h : eachOk f xs a = .ok b) : R a b := by
  induction xs generalizing a with
  | nil =>
    cases h
    exact hrefl _
  | cons x xs ih =>
    unfold eachOk at h
    cases hx : f x a with
    | error err =>
      rw [hx] at h
      cases h
    | ok mid =>
      rw [hx] at h
      exact htrans _ _ _ (hf x List.mem_cons_self _ _ hx)
        (ih (fun y hy => hf y (List.mem_cons_of_mem _ hy)) h)

/-- Two outcomes that agree on some tables. -/
def AgreeOk (T : Set String) : Except PyError Tables → Except PyError Tables → Prop
  | .ok a, .ok b => AgreeOn T a b
  | .error _, .error _ => True
  | _, _ => False

theorem eachOk_agree {α : Type} {T : Set String} {f : α → Tables → Except PyError Tables}
    {xs : List α} (hf : ∀ x ∈ xs, ∀ a b, AgreeOn T a b → AgreeOk T (f x a) (f x b))
    {a b : Tables} (h : AgreeOn T a b) : AgreeOk T (eachOk f xs a) (eachOk f xs b) := by
  induction xs generalizing a b with
  | nil => exact h
  | cons x xs ih =>
    have hx := hf x List.mem_cons_self a b h
    unfold eachOk
    cases ha : f x a with
    | error err =>
      cases hb : f x b with
      | error err' => trivial
      | ok b' =>
        rw [ha, hb] at hx
        exact hx.elim
    | ok a' =>
      cases hb : f x b with
      | error err' =>
        rw [ha, hb] at hx
        exact hx.elim
      | ok b' =>
        rw [ha, hb] at hx
        exact ih (fun y hy => hf y (List.mem_cons_of_mem _ hy)) hx

theorem dispatch_mem {ps : List Projection} {e : Events.Event Value} {p : Projection}
    (h : p ∈ ps.filter fun p => e.kind ∈ p.handles) : p ∈ ps ∧ e.kind ∈ p.handles := by
  have := List.mem_filter.mp h
  simpa using this

section Floats

variable [FloatColumn]

/-! ## The owned tables -/

/-- The tables that the projections own, as a set. -/
def owned : Set String := {t | t ∈ ownedTables}

theorem agents_not_owned : "agents" ∉ owned := by
  show "agents" ∉ ownedTables
  rw [ownedTables_eq]
  decide

theorem closed_registry {st : Statement Value} (h : OfRegistry st) : st.ClosedIn owned := by
  rcases h with h | ⟨caseId, rfl⟩
  · exact Or.inl h
  · refine Or.inr ⟨⟨_, _, _, _, _, rfl⟩, fun t ht => ?_⟩
    rw [List.mem_singleton.mp ht]
    exact agents_not_owned

theorem apply_agree {p : Projection} {e : Events.Event Value} (hp : p ∈ PROJECTION_REGISTRY)
    (hk : e.kind ∈ p.handles) {a b : Tables} (h : AgreeOn owned a b) :
    AgreeOk owned (p.apply e a) (p.apply e b) := by
  unfold Projection.apply
  cases hsts : p.statements e with
  | error err => trivial
  | ok sts =>
    have hfits := fits_registry hp hk sts hsts
    have hrun := execAll_agree h fun st hst => closed_registry (hfits.each st hst).1
    dsimp only
    cases ha : execAll a sts with
    | none =>
      cases hb : execAll b sts with
      | none => trivial
      | some b' =>
        rw [ha, hb] at hrun
        exact hrun.elim
    | some a' =>
      cases hb : execAll b sts with
      | none =>
        rw [ha, hb] at hrun
        exact hrun.elim
      | some b' =>
        rw [ha, hb] at hrun
        exact hrun

theorem replay_agree (events : List (Events.Event Value)) {a b : Tables} (h : AgreeOn owned a b) :
    AgreeOk owned (eachOk (dispatch PROJECTION_REGISTRY) events a)
      (eachOk (dispatch PROJECTION_REGISTRY) events b) := by
  refine eachOk_agree (fun e _ a b hab => ?_) h
  refine eachOk_agree (fun p hp a b hab => ?_) hab
  have hmem := dispatch_mem hp
  exact apply_agree hmem.1 hmem.2 hab

theorem replay_frame {events : List (Events.Event Value)} {a b : Tables}
    (h : eachOk (dispatch PROJECTION_REGISTRY) events a = .ok b) {t : String} (ht : t ∉ owned)
    (hagents : t ≠ "agents") : b t = a t := by
  refine (eachOk_rel (R := fun a b => b t = a t) (fun _ => rfl)
    (fun a b c hab hbc => hbc.trans hab) ?_ h)
  intro e _ a b hab
  refine (eachOk_rel (R := fun a b => b t = a t) (fun _ => rfl)
    (fun a b c hab hbc => hbc.trans hab) ?_ hab)
  intro p hp a b hab
  have hmem := dispatch_mem hp
  obtain ⟨sts, hsts, hrun⟩ := Projection.apply_eq_ok.mp hab
  refine execAll_frame hrun fun st hst hw => ?_
  rcases ((fits_registry hmem.1 hmem.2 sts hsts).each st hst).1 with howned | ⟨caseId, rfl⟩
  · exact ht (howned.1 t hw)
  · exact hagents (List.mem_singleton.mp hw)

theorem truncateAll_eq (db : Tables) : truncateAll PROJECTION_REGISTRY db =
    (PROJECTION_REGISTRY.flatMap fun p => p.truncated).foldl Db.clear db := by
  rw [List.foldl_flatMap]
  rfl

theorem truncated_iff (t : String) :
    t ∈ (PROJECTION_REGISTRY.flatMap fun p => p.truncated) ↔ t ∈ owned := by
  show t ∈ ["post_viewers", "engagements", "posts", "follows", "relationships", "outlets",
    "articles", "beliefs", "votes", "candidacies", "elections", "parties", "policies",
    "court_cases", "crimes"] ↔ t ∈ ownedTables
  rw [ownedTables_eq]
  simp only [List.mem_cons, List.not_mem_nil, or_false]
  tauto

theorem truncateAll_owned (db : Tables) : Empty owned (truncateAll PROJECTION_REGISTRY db) := by
  intro t ht k
  rw [truncateAll_eq, Db.foldl_clear, if_pos ((truncated_iff t).mpr ht)]

theorem truncateAll_other (db : Tables) {t : String} (h : t ∉ owned) :
    truncateAll PROJECTION_REGISTRY db t = db t := by
  rw [truncateAll_eq, Db.foldl_clear, if_neg fun ht => h ((truncated_iff t).mp ht)]

/-! ## Convictions -/

/-- The defendants that the suits name, by case. -/
abbrev Suits := String → Option Value

/-- A suit names its defendant. -/
def suitsAfter (suits : Suits) (e : Events.Event Value) : Suits :=
  if e.kind = SUIT_FILED then
    match field? e "case_id", field? e "defendant_id" with
    | some (.str caseId), some v => Function.update suits caseId (some v)
    | _, _ => suits
  else suits

/-- The agent that a guilty verdict counts on. -/
def convicted (suits : Suits) (e : Events.Event Value) : Option String :=
  if e.kind = JUDGMENT_RENDERED then
    match field? e "verdict", field? e "case_id" with
    | some (.str "guilty"), some (.str caseId) =>
      match suits caseId with
      | some (.str agentId) => some agentId
      | _ => none
    | _, _ => none
  else none

/-- The agents that the guilty verdicts of a sequence count on. -/
def convictions (suits : Suits) : List (Events.Event Value) → List String
  | [] => []
  | e :: es => (convicted suits e).toList ++ convictions (suitsAfter suits e) es

/-- A conviction on the table of the agents. -/
def convict (agents : Table Value) (agentId : String) : Table Value := fun k =>
  if k = [agentId] then
    (agents k).map fun r => r.write [("criminal_record", plus (r "criminal_record") 1)]
  else agents k

/-- The cases name the defendants of the suits. -/
def Tracks (suits : Suits) (db : Tables) : Prop :=
  ∀ caseId, (db "court_cases" [caseId]).map (fun r => r "defendant_id") = suits caseId

/-- A statement that neither changes a defendant nor counts a conviction. -/
def KeepsDefendants (st : Statement Value) : Prop :=
  "agents" ∉ st.writes ∧ ("court_cases" ∉ st.writes ∨ ∃ key set,
    st = .update "court_cases" key set ∧ ∀ r, set r "defendant_id" = r "defendant_id")

omit [FloatColumn] in
theorem keeps_exec {suits : Suits} {db db' : Tables} {st : Statement Value}
    (hst : KeepsDefendants st) (h : st.exec db = some db') (ht : Tracks suits db) :
    Tracks suits db' ∧ db' "agents" = db "agents" := by
  refine ⟨fun caseId => ?_, exec_frame h hst.1⟩
  rcases hst.2 with hframe | ⟨key, set, rfl, hset⟩
  · rw [exec_frame h hframe]
    exact ht caseId
  · cases h
    rw [← ht caseId]
    unfold Db.modifyRow
    rw [Db.setRow_table]
    by_cases hk : [caseId] = key
    · dsimp only
      rw [if_pos hk, ← hk, Option.map_map]
      exact Option.map_congr fun r _ => hset r
    · dsimp only
      rw [if_neg hk]

omit [FloatColumn] in
theorem keeps_all {suits : Suits} {db db' : Tables} {sts : List (Statement Value)}
    (hsts : ∀ st ∈ sts, KeepsDefendants st) (h : execAll db sts = some db')
    (ht : Tracks suits db) : Tracks suits db' ∧ db' "agents" = db "agents" := by
  induction sts generalizing db with
  | nil =>
    cases h
    exact ⟨ht, rfl⟩
  | cons st sts ih =>
    simp only [execAll] at h
    obtain ⟨mid, hmid, h⟩ := Option.bind_eq_some_iff.mp h
    obtain ⟨htmid, hamid⟩ := keeps_exec (hsts st List.mem_cons_self) hmid ht
    obtain ⟨ht', ha'⟩ := ih (fun s hs => hsts s (List.mem_cons_of_mem _ hs)) h htmid
    exact ⟨ht', ha'.trans hamid⟩

/-- What the law projection does to the defendants and the agents. -/
def Counts (suits : Suits) (e : Events.Event Value) (sts : List (Statement Value)) : Prop :=
  ∀ db db', Tracks suits db → execAll db sts = some db' →
    Tracks (suitsAfter suits e) db' ∧
      db' "agents" = (convicted suits e).elim (db "agents") (convict (db "agents"))

omit [FloatColumn] in
theorem counts_keep {suits : Suits} {e : Events.Event Value} {sts : List (Statement Value)}
    (h : e.kind ≠ SUIT_FILED) (h' : e.kind ≠ JUDGMENT_RENDERED)
    (hsts : ∀ st ∈ sts, KeepsDefendants st) : Counts suits e sts := by
  intro db db' ht hrun
  have hsuits : suitsAfter suits e = suits := if_neg h
  have hnone : convicted suits e = none := if_neg h'
  rw [hsuits, hnone]
  exact keeps_all hsts hrun ht

/-! ## The fields of an event -/

omit [FloatColumn] in
theorem textField_ok {e : Events.Event Value} {key text : String}
    (h : textField e key = .ok text) : field? e key = some (.str text) := by
  unfold textField at h
  cases hv : field e key with
  | error err =>
    rw [hv] at h
    cases h
  | ok v =>
    rw [hv] at h
    cases v with
    | str s =>
      cases h
      exact field_ok hv
    | _ => cases h

omit [FloatColumn] in
theorem columns_names {e : Events.Event Value} {names : List String}
    {cs : List (String × Value)} (h : columns e names = .ok cs) : ∀ c ∈ cs, c.1 ∈ names := by
  induction names generalizing cs with
  | nil =>
    cases h
    intro c hc
    cases hc
  | cons name names ih =>
    unfold columns at h
    cases hv : field e name with
    | error err =>
      rw [hv] at h
      cases h
    | ok v =>
      rw [hv] at h
      cases hcs : columns e names with
      | error err =>
        rw [hcs] at h
        cases h
      | ok ds =>
        rw [hcs] at h
        cases h
        intro c hc
        rcases List.mem_cons.mp hc with rfl | hc
        · exact List.mem_cons_self
        · exact List.mem_cons_of_mem _ (ih hcs c hc)

omit [FloatColumn] in
theorem columns_write {e : Events.Event Value} {names : List String}
    {cs : List (String × Value)} (h : columns e names = .ok cs) (name : String)
    (hname : name ∈ names) : ∃ v, field? e name = some v ∧ ∀ r : Row Value, r.write cs name = v := by
  induction names generalizing cs with
  | nil => cases hname
  | cons first names ih =>
    unfold columns at h
    cases hv : field e first with
    | error err =>
      rw [hv] at h
      cases h
    | ok v =>
      rw [hv] at h
      cases hcs : columns e names with
      | error err =>
        rw [hcs] at h
        cases h
      | ok ds =>
        rw [hcs] at h
        cases h
        by_cases hin : name ∈ names
        · obtain ⟨w, hw, hrow⟩ := ih hcs hin
          exact ⟨w, hw, fun r => hrow _⟩
        · have heq : name = first := (List.mem_cons.mp hname).resolve_right hin
          refine ⟨v, by rw [heq]; exact field_ok hv, fun r => ?_⟩
          -- the later columns have other names
          rw [Row.write_cons, Row.write_ne, heq]
          · exact Function.update_self _ _ _
          · intro c hc hsame
            exact hin (hsame ▸ columns_names hcs c hc)

/-! ## A law event -/

omit [FloatColumn] in
theorem counts_suit {suits : Suits} {e : Events.Event Value} (hk : e.kind = SUIT_FILED)
    {caseId : String} {v : Value} (hcase : field? e "case_id" = some (.str caseId))
    (hv : field? e "defendant_id" = some v) {row : Row Value} {set : Row Value → Row Value}
    (hrow : row "defendant_id" = v) (hset : ∀ r, set r "defendant_id" = v) :
    Counts suits e [.upsert "court_cases" [caseId] row set] := by
  intro db db' ht hrun
  have hsuits : suitsAfter suits e = Function.update suits caseId (some v) := by
    unfold suitsAfter
    rw [if_pos hk, hcase, hv]
  have hnone : convicted suits e = none := by
    refine if_neg ?_
    rw [hk]
    decide
  rw [hsuits, hnone]
  cases hrun
  refine ⟨fun c => ?_, Db.setRow_table_ne (by decide) _ _⟩
  rw [Db.setRow_table]
  by_cases hc : c = caseId
  · subst hc
    rw [Function.update_self]
    dsimp only
    rw [if_pos rfl]
    show some _ = some _
    cases db "court_cases" [c] with
    | none => exact congrArg some hrow
    | some r => exact congrArg some (hset r)
  · have hne : [c] ≠ [caseId] := fun h => hc (List.cons.inj h).1
    rw [Function.update_of_ne hc]
    dsimp only
    rw [if_neg hne]
    exact ht c

omit [FloatColumn] in
theorem convict_exec {suits : Suits} {db db' : Tables} {caseId : String} (ht : Tracks suits db)
    (h : (convictStatement caseId).exec db = some db') :
    Tracks suits db' ∧ db' "agents" = (match suits caseId with
      | some (.str agentId) => some agentId
      | _ => none).elim (db "agents") (convict (db "agents")) := by
  have hframe : "court_cases" ∉ (convictStatement caseId).writes := by
    simp [convictStatement, Statement.writes]
  refine ⟨fun c => by rw [exec_frame h hframe]; exact ht c, ?_⟩
  have hcase := ht caseId
  unfold convictStatement at h
  simp only [Statement.exec] at h
  cases hrow : db "court_cases" [caseId] with
  | none =>
    rw [hrow] at h hcase
    cases h
    rw [← hcase]
    rfl
  | some r =>
    rw [hrow] at h hcase
    rw [← hcase]
    simp only [Option.bind_some, Option.map_some, defendantKey] at h ⊢
    cases hdef : r "defendant_id" with
    | str agentId =>
      rw [hdef] at h
      cases h
      unfold Db.modifyRow
      rw [Db.setRow_table]
      funext k
      show _ = convict (db "agents") agentId k
      unfold convict
      by_cases hk : k = [agentId]
      · rw [if_pos hk, if_pos hk, hk]
      · rw [if_neg hk, if_neg hk]
    | _ =>
      rw [hdef] at h
      cases h
      rfl

omit [FloatColumn] in
theorem law_counts (suits : Suits) {e : Events.Event Value}
    (h : e.kind ∈ lawProjection.handles) : Gives (Counts suits e) (lawStatements e) := by
  unfold lawStatements
  refine gives_ite (fun hk => ?_) fun h1 => gives_ite (fun hk => ?_) fun h2 =>
    gives_ite (fun hk => ?_) fun h3 => gives_ite (fun hk => ?_) fun h4 =>
    gives_ite (fun hk => ?_) fun h5 => gives_ite (fun hk => ?_) fun h6 =>
    gives_ite (fun hk => ?_) fun h7 => gives_ite (fun hk => ?_) fun h8 => ?_
  · refine gives_bind fun crimeId _ => gives_bind fun cs _ => gives_pure ?_
    refine counts_keep (by rw [hk]; decide) (by rw [hk]; decide) ?_
    simp [KeepsDefendants, Statement.writes]
  · refine gives_bind fun crimeId _ => gives_pure ?_
    refine counts_keep (by rw [hk]; decide) (by rw [hk]; decide) ?_
    simp [KeepsDefendants, Statement.writes]
  · refine gives_bind fun reporterId _ => gives_bind fun crimeId _ => gives_pure ?_
    refine counts_keep (by rw [hk]; decide) (by rw [hk]; decide) ?_
    simp [KeepsDefendants, Statement.writes]
  · -- a suit
    refine gives_bind fun caseId hcase => gives_bind fun cs hcs => gives_pure ?_
    obtain ⟨v, hv, hwrite⟩ := columns_write hcs "defendant_id" (by decide)
    have hrow : ∀ ds : List (String × Value), (∀ d ∈ ds, d.1 ≠ "defendant_id") →
        sqlRow (cs ++ ds) "defendant_id" = v := by
      intro ds hds
      unfold sqlRow Row.ofList
      rw [Row.write_append, Row.write_ne hds]
      exact hwrite _
    refine counts_suit hk (textField_ok hcase) hv (hrow _ (by simp)) fun r => ?_
    rw [Row.write_ne (by simp)]
    unfold Row.copy
    rw [if_pos (by decide)]
    exact hrow _ (by simp)
  · refine gives_bind fun side _ => gives_bind fun counselId _ => gives_bind fun caseId _ =>
      gives_pure ?_
    refine counts_keep (by rw [hk]; decide) (by rw [hk]; decide) ?_
    intro st hst
    rw [List.mem_singleton.mp hst]
    refine ⟨by simp [Statement.writes], Or.inr ⟨_, _, rfl, fun r => Row.write_ne ?_ r⟩⟩
    intro c hc
    rw [List.mem_singleton.mp hc]
    dsimp only
    split <;> decide
  · refine gives_bind fun v _ => gives_bind fun admitted _ => gives_bind fun caseId _ =>
      gives_pure ?_
    refine counts_keep (by rw [hk]; decide) (by rw [hk]; decide) ?_
    intro st hst
    rw [List.mem_singleton.mp hst]
    exact ⟨by simp [Statement.writes], Or.inr ⟨_, _, rfl, fun r => Row.write_ne (by simp) r⟩⟩
  · refine gives_bind fun caseId _ => gives_pure ?_
    refine counts_keep (by rw [hk]; decide) (by rw [hk]; decide) ?_
    intro st hst
    rw [List.mem_singleton.mp hst]
    exact ⟨by simp [Statement.writes], Or.inr ⟨_, _, rfl, fun r => Row.write_ne (by simp) r⟩⟩
  · -- a judgment
    refine gives_bind fun judgeId _ => gives_bind fun verdict hverdict => gives_bind fun fine _ =>
      gives_bind fun cs hcs => gives_bind fun caseId hcase => ?_
    have hsuits : suitsAfter suits e = suits := by
      refine if_neg ?_
      rw [hk]
      decide
    have hjudged : KeepsDefendants (.update "court_cases" [caseId] fun r => r.write
        ([("status", .str "resolved"), ("resolved_tick", .int e.tick), ("judge_id", judgeId),
          ("verdict", verdict), ("penalty_cents", fine)] ++ cs)) := by
      refine ⟨by simp [Statement.writes], Or.inr ⟨_, _, rfl, fun r => Row.write_ne ?_ r⟩⟩
      intro c hc
      rcases List.mem_append.mp hc with hc | hc
      · simp only [List.mem_cons, List.not_mem_nil, or_false] at hc
        rcases hc with rfl | rfl | rfl | rfl | rfl <;> simp
      · intro heq
        have hname := columns_names hcs c hc
        rw [heq] at hname
        revert hname
        decide
    split
    · refine gives_pure fun db db' ht hrun => ?_
      rw [hsuits]
      unfold convicted
      rw [if_pos hk, field_ok hverdict, textField_ok hcase]
      simp only [execAll] at hrun
      obtain ⟨mid, hmid, hrun⟩ := Option.bind_eq_some_iff.mp hrun
      obtain ⟨last, hlast, hrun⟩ := Option.bind_eq_some_iff.mp hrun
      cases hrun
      obtain ⟨htmid, hamid⟩ := keeps_exec hjudged hmid ht
      obtain ⟨htlast, halast⟩ := convict_exec htmid hlast
      refine ⟨htlast, ?_⟩
      rw [halast, hamid]
      rfl
    · next hother =>
      refine gives_pure fun db db' ht hrun => ?_
      have hnone : convicted suits e = none := by
        unfold convicted
        rw [if_pos hk, field_ok hverdict, textField_ok hcase]
        split
        · next heq _ => exact absurd (Option.some.inj heq) hother
        · rfl
      rw [hsuits, hnone]
      refine keeps_all ?_ hrun ht
      intro st hst
      rw [List.mem_singleton.mp hst]
      exact hjudged
  · simp [lawProjection, h1, h2, h3, h4, h5, h6, h7, h8] at h

/-! ## Replays -/

/-- Convictions, one after the other. -/
def convictAll (agents : Table Value) (agentIds : List String) : Table Value :=
  agentIds.foldl convict agents

theorem civil_frame {e : Events.Event Value} {a b : Tables}
    (h : eachOk (fun p => p.apply e) (civilProjections.filter fun p => e.kind ∈ p.handles) a
      = .ok b) : b "agents" = a "agents" ∧ b "court_cases" = a "court_cases" := by
  refine eachOk_rel (R := fun a b => b "agents" = a "agents" ∧ b "court_cases" = a "court_cases")
    (fun _ => ⟨rfl, rfl⟩) (fun a b c hab hbc => ⟨hbc.1.trans hab.1, hbc.2.trans hab.2⟩) ?_ h
  intro p hp a b hab
  have hmem := dispatch_mem hp
  have htables := civil_tables hmem.1
  obtain ⟨sts, hsts, hrun⟩ := Projection.apply_eq_ok.mp hab
  have heach := (civil_fits hmem.1 hmem.2 sts hsts).each
  constructor
  · exact execAll_frame hrun fun st hst hw => htables.1 ((heach st hst).1.1 _ hw)
  · exact execAll_frame hrun fun st hst hw => htables.2 ((heach st hst).1.1 _ hw)

omit [FloatColumn] in
theorem law_frame (suits : Suits) {e : Events.Event Value} (h : e.kind ∉ lawProjection.handles) :
    suitsAfter suits e = suits ∧ convicted suits e = none := by
  constructor
  · refine if_neg fun hk => h ?_
    rw [hk]
    decide
  · refine if_neg fun hk => h ?_
    rw [hk]
    decide

theorem dispatch_agents {suits : Suits} {e : Events.Event Value} {a b : Tables}
    (h : dispatch PROJECTION_REGISTRY e a = .ok b) (ht : Tracks suits a) :
    Tracks (suitsAfter suits e) b ∧
      b "agents" = (convicted suits e).elim (a "agents") (convict (a "agents")) := by
  unfold dispatch at h
  rw [registry_eq, List.filter_append, eachOk_append] at h
  cases hmid : eachOk (fun p => p.apply e)
      (civilProjections.filter fun p => e.kind ∈ p.handles) a with
  | error err =>
    rw [hmid] at h
    cases h
  | ok mid =>
    rw [hmid] at h
    obtain ⟨hagents, hcases⟩ := civil_frame hmid
    have htmid : Tracks suits mid := fun caseId => by
      rw [hcases]
      exact ht caseId
    rw [← hagents]
    -- the law projection comes last
    by_cases hk : e.kind ∈ lawProjection.handles
    · rw [List.filter_cons_of_pos (by simpa using hk)] at h
      change eachOk (fun p => p.apply e) [lawProjection] mid = .ok b at h
      unfold eachOk at h
      cases hlaw : lawProjection.apply e mid with
      | error err =>
        rw [hlaw] at h
        cases h
      | ok last =>
        rw [hlaw] at h
        cases h
        obtain ⟨sts, hsts, hrun⟩ := Projection.apply_eq_ok.mp hlaw
        exact law_counts suits hk sts hsts _ _ htmid hrun
    · rw [List.filter_cons_of_neg (by simpa using hk)] at h
      cases h
      obtain ⟨hsuits, hnone⟩ := law_frame suits hk
      rw [hsuits, hnone]
      exact ⟨htmid, rfl⟩

theorem replay_agents {suits : Suits} {events : List (Events.Event Value)} {a b : Tables}
    (h : eachOk (dispatch PROJECTION_REGISTRY) events a = .ok b) (ht : Tracks suits a) :
    b "agents" = convictAll (a "agents") (convictions suits events) := by
  induction events generalizing suits a with
  | nil =>
    cases h
    rfl
  | cons e es ih =>
    unfold eachOk at h
    cases he : dispatch PROJECTION_REGISTRY e a with
    | error err =>
      rw [he] at h
      cases h
    | ok mid =>
      rw [he] at h
      obtain ⟨htmid, hagents⟩ := dispatch_agents he ht
      rw [ih h htmid, hagents]
      show _ = convictAll (a "agents") ((convicted suits e).toList ++ _)
      cases convicted suits e with
      | none => rfl
      | some agentId => rfl

end Floats

/-! ## Records -/

/-- The criminal record of an agent. -/
def recordOf (agents : Table Value) (agentId : String) : Option Int :=
  match (agents [agentId]).map fun r : Row Value => r "criminal_record" with
  | some (.int n) => some n
  | _ => none

theorem recordOf_convict (agents : Table Value) (agentId other : String) :
    recordOf (convict agents other) agentId
      = (recordOf agents agentId).map fun n => if agentId = other then n + 1 else n := by
  unfold recordOf convict
  by_cases h : agentId = other
  · subst h
    simp only [if_true, Option.map_map]
    cases agents [agentId] with
    | none => rfl
    | some r =>
      simp only [Option.map_some, Function.comp_apply, Row.write_cons]
      rw [show Row.write (Function.update r "criminal_record" (plus (r "criminal_record") 1)) []
        "criminal_record" = plus (r "criminal_record") 1 from Function.update_self _ _ _]
      cases r "criminal_record" <;> rfl
  · have hne : [agentId] ≠ [other] := fun heq => h (List.cons.inj heq).1
    simp only [if_neg hne, if_neg h, Option.map_id']

theorem recordOf_convictAll (agents : Table Value) (agentIds : List String) (agentId : String) :
    recordOf (convictAll agents agentIds) agentId
      = (recordOf agents agentId).map fun n : Int => n + (agentIds.count agentId : Int) := by
  induction agentIds generalizing agents with
  | nil => simp [convictAll]
  | cons other agentIds ih =>
    show recordOf (convictAll (convict agents other) agentIds) agentId = _
    rw [ih, recordOf_convict, Option.map_map]
    refine Option.map_congr fun n _ => ?_
    rw [Function.comp_apply, List.count_cons]
    by_cases h : agentId = other
    · subst h
      simp only [if_true, beq_self_eq_true]
      push_cast
      omega
    · have hne : (other == agentId) = false := by simpa using fun heq => h heq.symm
      simp only [if_neg h, hne]
      simp

theorem convict_none {agents : Table Value} {agentId : String} (h : recordOf agents agentId = none) :
    convict agents agentId = agents := by
  funext k
  unfold convict
  by_cases hk : k = [agentId]
  · subst hk
    rw [if_pos rfl]
    unfold recordOf at h
    cases hrow : agents [agentId] with
    | none => rfl
    | some r =>
      rw [hrow] at h
      refine congrArg some ?_
      have hplus : plus (r "criminal_record") 1 = r "criminal_record" := by
        cases hv : r "criminal_record" with
        | int n =>
          simp only [Option.map_some, hv] at h
          cases h
        | _ => rfl
      dsimp only
      rw [hplus, Row.write_cons, Function.update_eq_self]
      rfl
  · rw [if_neg hk]

theorem convictAll_eq_self {agents : Table Value} {agentIds : List String} :
    convictAll agents agentIds = agents ↔ ∀ a ∈ agentIds, recordOf agents a = none := by
  constructor
  · intro h a ha
    have hcount := recordOf_convictAll agents agentIds a
    rw [h] at hcount
    cases hrec : recordOf agents a with
    | none => rfl
    | some n =>
      rw [hrec, Option.map_some, Option.some.injEq] at hcount
      have hpos := List.count_pos_iff.mpr ha
      omega
  · intro h
    induction agentIds with
    | nil => rfl
    | cons other agentIds ih =>
      show convictAll (convict agents other) agentIds = agents
      rw [convict_none (h other List.mem_cons_self)]
      exact ih fun a ha => h a (List.mem_cons_of_mem _ ha)

section Floats

variable [FloatColumn]

/-! ## Restarts -/

/-- What is to hold of a committed sequence and the tables it leaves: every cut
gives these tables, and so does every run of rebuilds that start at the given
ticks. -/
structure AllEqual (stored : List (Events.Event Value)) (db live : Tables)
    (restarts : Set Int) : Prop where
  cuts : ∀ cuts, cuts.flatten = stored → applyCuts PROJECTION_REGISTRY cuts db = .ok live
  rebuilds : ∀ plans : List (Int × Nat), (∀ plan ∈ plans, plan.1 ∈ restarts ∧ 0 < plan.2) →
    eachOk (fun plan => rebuild PROJECTION_REGISTRY stored plan.1 plan.2) plans live = .ok live

theorem tracks_empty {db : Tables} (h : Empty owned db) : Tracks (fun _ => none) db := by
  intro caseId
  have hmem : "court_cases" ∈ owned := by
    show "court_cases" ∈ ownedTables
    rw [ownedTables_eq]
    decide
  rw [h "court_cases" hmem]
  rfl

omit [FloatColumn] in
theorem scan_all {stored : List (Events.Event Value)} (h : Store.InOrder stored) {fromTick : Int}
    (hall : ∀ e ∈ stored, fromTick ≤ e.tick) : scan stored fromTick = stored := by
  unfold scan
  rw [List.filter_eq_self.mpr fun e he => by simpa using hall e he]
  exact bySeq_eq_self h

theorem rebuild_live {stored : List (Events.Event Value)} {db live : Tables}
    (hord : Store.InOrder stored) (hempty : Empty owned db)
    (hlive : eachOk (dispatch PROJECTION_REGISTRY) stored db = .ok live) {fromTick : Int}
    (hall : ∀ e ∈ stored, fromTick ≤ e.tick) {batch : Nat} (hbatch : 0 < batch) :
    ∃ again, rebuild PROJECTION_REGISTRY stored fromTick batch live = .ok again ∧
      (∀ t, t ≠ "agents" → again t = live t) ∧
      again "agents" = convictAll (live "agents") (convictions (fun _ => none) stored) := by
  rw [rebuild_eq hbatch, scan_all hord hall]
  have hagree : AgreeOn owned db (truncateAll PROJECTION_REGISTRY live) := by
    intro t ht
    funext k
    rw [hempty t ht, truncateAll_owned live t ht]
  have hrun := replay_agree stored hagree
  rw [hlive] at hrun
  cases hagain : eachOk (dispatch PROJECTION_REGISTRY) stored
      (truncateAll PROJECTION_REGISTRY live) with
  | error err =>
    rw [hagain] at hrun
    exact hrun.elim
  | ok again =>
    rw [hagain] at hrun
    refine ⟨again, rfl, fun t hagents => ?_, ?_⟩
    · by_cases ht : t ∈ owned
      · exact (hrun t ht).symm
      · rw [replay_frame hagain ht hagents, truncateAll_other live ht]
    · rw [replay_agents hagain (tracks_empty (truncateAll_owned live)),
        truncateAll_other live agents_not_owned]

theorem restart_iff {stored : List (Events.Event Value)} {db live : Tables}
    (hord : Store.InOrder stored) (hempty : Empty owned db)
    (hlive : eachOk (dispatch PROJECTION_REGISTRY) stored db = .ok live) {fromTick : Int}
    (hall : ∀ e ∈ stored, fromTick ≤ e.tick) :
    AllEqual stored db live {fromTick} ↔
      ∀ a ∈ convictions (fun _ => none) stored, recordOf (db "agents") a = none := by
  have hagents := replay_agents hlive (tracks_empty hempty)
  -- a record is there before the replay exactly when it is there after
  have hsame : (∀ a ∈ convictions (fun _ => none) stored, recordOf (db "agents") a = none) ↔
      ∀ a ∈ convictions (fun _ => none) stored, recordOf (live "agents") a = none := by
    refine forall₂_congr fun a _ => ?_
    rw [hagents, recordOf_convictAll, Option.map_eq_none_iff]
  rw [hsame, ← convictAll_eq_self]
  constructor
  · intro h
    obtain ⟨again, hagain, -, hcount⟩ := rebuild_live hord hempty hlive hall Nat.one_pos
    have hrun := h.rebuilds [(fromTick, 1)] (by simp)
    unfold eachOk at hrun
    dsimp only at hrun
    rw [hagain] at hrun
    cases hrun
    exact hcount.symm
  · intro h
    refine ⟨fun cuts hcuts => ?_, fun plans hplans => ?_⟩
    · rw [applyCuts_eq (by rw [hcuts]; exact hord), hcuts]
      exact hlive
    · induction plans with
      | nil => rfl
      | cons plan plans ih =>
        obtain ⟨hfrom, hbatch⟩ := hplans plan List.mem_cons_self
        have hfrom : plan.1 = fromTick := hfrom
        obtain ⟨again, hagain, hothers, hcount⟩ := rebuild_live hord hempty hlive hall hbatch
        have hback : again = live := by
          funext t
          by_cases ht : t = "agents"
          · rw [ht, hcount, h]
          · exact hothers t ht
        unfold eachOk
        rw [hfrom, hagain, hback]
        exact ih fun p hp => hplans p (List.mem_cons_of_mem _ hp)

/-! ## Later restarts -/

omit [FloatColumn] in
theorem eachOk_id {α : Type} {f : α → Tables → Except PyError Tables} {xs : List α} {db : Tables}
    (h : ∀ x ∈ xs, f x db = .ok db) : eachOk f xs db = .ok db := by
  induction xs with
  | nil => rfl
  | cons x xs ih =>
    unfold eachOk
    rw [h x List.mem_cons_self]
    exact ih fun y hy => h y (List.mem_cons_of_mem _ hy)

omit [FloatColumn] in
theorem eachOk_still {α : Type} {f : α → Tables → Except PyError Tables} {xs : List α}
    {db db' : Tables} (hf : ∀ x ∈ xs, ∀ b, f x db = .ok b → b = db)
    (h : eachOk f xs db = .ok db') : db' = db ∧ ∀ x ∈ xs, f x db = .ok db := by
  induction xs with
  | nil =>
    cases h
    exact ⟨rfl, fun x hx => absurd hx List.not_mem_nil⟩
  | cons x xs ih =>
    unfold eachOk at h
    cases hx : f x db with
    | error err =>
      rw [hx] at h
      cases h
    | ok mid =>
      rw [hx] at h
      have hmid := hf x List.mem_cons_self mid hx
      subst hmid
      obtain ⟨heq, hrest⟩ := ih (fun y hy => hf y (List.mem_cons_of_mem _ hy)) h
      refine ⟨heq, fun y hy => ?_⟩
      rcases List.mem_cons.mp hy with rfl | hy
      · exact hx
      · exact hrest y hy

theorem still_registry {st : Statement Value} {db : Tables} (h : OfRegistry st)
    (hgrows : st.grows = false) (hempty : Empty owned db) : st.exec db = some db := by
  rcases h with h | ⟨caseId, rfl⟩
  · exact exec_still hgrows h hempty
  · have hnone : db "court_cases" [caseId] = none := by
      refine hempty "court_cases" ?_ _
      show "court_cases" ∈ ownedTables
      rw [ownedTables_eq]
      decide
    unfold convictStatement
    simp only [Statement.exec, hnone, Option.bind_none]

theorem dispatch_still {e : Events.Event Value} {db db' : Tables} (he : ¬Inserts e)
    (hempty : Empty owned db) (h : dispatch PROJECTION_REGISTRY e db = .ok db') : db' = db := by
  refine (eachOk_still (fun p hp b hb => ?_) h).1
  have hmem := dispatch_mem hp
  obtain ⟨sts, hsts, hrun⟩ := Projection.apply_eq_ok.mp hb
  have hfits := fits_registry hmem.1 hmem.2 sts hsts
  have hstay : ∀ rest : List (Statement Value), (∀ st ∈ rest, st ∈ sts) →
      execAll db rest = some db := by
    intro rest hrest
    induction rest with
    | nil => rfl
    | cons st rest ih =>
      have hst := hrest st List.mem_cons_self
      have hgrows : st.grows = false := by
        by_contra hg
        exact he (hfits.grows.mp ⟨st, hst, by simpa using hg⟩)
      simp only [execAll]
      rw [still_registry (hfits.each st hst).1 hgrows hempty]
      exact ih fun s hs => hrest s (List.mem_cons_of_mem _ hs)
  rw [hstay sts fun _ h => h] at hrun
  exact (Option.some.inj hrun).symm

/-- The kinds that the projections handle. -/
def handledKinds : List Int :=
  [POST_PUBLISHED, POST_DELETED, POST_ENGAGED, CLAIM_CHECKED, FOLLOW_CREATED, FOLLOW_ENDED,
    TIE_FORMED, TIE_UPDATED, TIE_ENDED, TIE_TYPE_CHANGED, OUTLET_FOUNDED, OUTLET_REVENUE_BOOKED,
    OUTLET_CLOSED, ARTICLE_PUBLISHED, ARTICLE_DISTRIBUTED, ARTICLE_RETRACTED, CLAIM_CHECKED,
    BELIEF_UPDATED, BELIEF_DRIFT_APPLIED, BELIEF_PRIORS_SET, MIGRATION_IN, PARTY_FOUNDED,
    PARTY_PLATFORM_CHANGED, PARTY_DISSOLVED, ELECTION_CALLED, ELECTION_RESOLVED,
    CANDIDACY_ANNOUNCED, CAMPAIGN_SPEND, VOTE_CAST, ABSTAINED, POLICY_ENACTED, POLICY_REPEALED,
    CRIME_COMMITTED, CRIME_DETECTED, CRIME_REPORTED, SUIT_FILED, COUNSEL_RETAINED,
    EVIDENCE_ADMITTED, CASE_SETTLED, JUDGMENT_RENDERED]

theorem handledKinds_eq : (PROJECTION_REGISTRY.flatMap fun p => p.handles) = handledKinds := rfl

theorem inserts_handled {e : Events.Event Value} (h : Inserts e) :
    ∃ p ∈ PROJECTION_REGISTRY, e.kind ∈ p.handles := by
  rw [← List.mem_flatMap, handledKinds_eq]
  rcases h with h | ⟨key, hkey, -⟩
  · have hsub : ∀ k ∈ INSERTING, k ∈ handledKinds := by decide
    exact hsub _ h
  · obtain ⟨before, after, hlisting, -⟩ := List.lookup_eq_some_iff.mp hkey
    have hlisted : (e.kind, key) ∈ LISTING := by
      rw [hlisting]
      simp
    have hsub : ∀ row ∈ LISTING, row.1 ∈ handledKinds := by decide
    exact hsub _ hlisted

/-- Rows stay where they are. -/
def Stays (a b : Tables) : Prop := ∀ t k, (a t k).isSome → (b t k).isSome

omit [FloatColumn] in
theorem stays_refl (a : Tables) : Stays a a := fun _ _ h => h

omit [FloatColumn] in
theorem stays_trans (a b c : Tables) (hab : Stays a b) (hbc : Stays b c) : Stays a c :=
  fun t k h => hbc t k (hab t k h)

theorem apply_stays {p : Projection} {e : Events.Event Value} (hp : p ∈ PROJECTION_REGISTRY)
    (hk : e.kind ∈ p.handles) {a b : Tables} (h : p.apply e a = .ok b) : Stays a b := by
  obtain ⟨sts, hsts, hrun⟩ := Projection.apply_eq_ok.mp h
  intro t k hrow
  exact execAll_stays hrun (fun st hst => ((fits_registry hp hk sts hsts).each st hst).2) hrow

theorem dispatch_stays {e : Events.Event Value} {a b : Tables}
    (h : dispatch PROJECTION_REGISTRY e a = .ok b) : Stays a b := by
  refine eachOk_rel stays_refl stays_trans (fun p hp a b hab => ?_) h
  have hmem := dispatch_mem hp
  exact apply_stays hmem.1 hmem.2 hab

omit [FloatColumn] in
theorem eachOk_at {α : Type} {f : α → Tables → Except PyError Tables} {xs : List α} {x : α}
    (hx : x ∈ xs) {a b : Tables} (h : eachOk f xs a = .ok b) :
    ∃ pre post before after, xs = pre ++ x :: post ∧ f x before = .ok after ∧
      eachOk f post after = .ok b := by
  obtain ⟨pre, post, rfl⟩ := List.append_of_mem hx
  rw [eachOk_append] at h
  cases hpre : eachOk f pre a with
  | error err =>
    rw [hpre] at h
    cases h
  | ok before =>
    rw [hpre] at h
    change eachOk f (x :: post) before = .ok b at h
    unfold eachOk at h
    cases hmid : f x before with
    | error err =>
      rw [hmid] at h
      cases h
    | ok after =>
      rw [hmid] at h
      exact ⟨pre, post, before, after, rfl, hmid, h⟩

theorem dispatch_grows {e : Events.Event Value} {a b : Tables} (he : Inserts e)
    (h : dispatch PROJECTION_REGISTRY e a = .ok b) : ∃ t ∈ owned, ∃ k, (b t k).isSome := by
  obtain ⟨p, hp, hk⟩ := inserts_handled he
  have hmem : p ∈ PROJECTION_REGISTRY.filter fun p => e.kind ∈ p.handles :=
    List.mem_filter.mpr ⟨hp, by simpa using hk⟩
  obtain ⟨pre, post, before, after, hsplit, happly, hpost⟩ := eachOk_at hmem h
  obtain ⟨sts, hsts, hrun⟩ := Projection.apply_eq_ok.mp happly
  have hfits := fits_registry hp hk sts hsts
  obtain ⟨st, hst, hgrows⟩ := hfits.grows.mpr he
  obtain ⟨front, back, rfl⟩ := List.append_of_mem hst
  rw [execAll_append] at hrun
  obtain ⟨mid, -, hrun⟩ := Option.bind_eq_some_iff.mp hrun
  simp only [execAll] at hrun
  obtain ⟨grown, hgrown, hback⟩ := Option.bind_eq_some_iff.mp hrun
  -- a conviction does not grow, so the statement is within the owned tables
  have howned : Owned ownedTables st := by
    rcases (hfits.each st hst).1 with howned | ⟨caseId, rfl⟩
    · exact howned
    · cases hgrows
  obtain ⟨t, ht, k, hrow⟩ := exec_grows hgrown hgrows howned.1
  refine ⟨t, ht, k, ?_⟩
  have hkeep : (after t k).isSome := execAll_stays hback
    (fun s hs => (hfits.each s (List.mem_append_right _ (List.mem_cons_of_mem _ hs))).2) hrow
  refine eachOk_rel stays_refl stays_trans (fun q hq a b hab => ?_) hpost t k hkeep
  have hq : q ∈ PROJECTION_REGISTRY.filter fun p => e.kind ∈ p.handles := by
    rw [hsplit]
    exact List.mem_append_right _ (List.mem_cons_of_mem _ hq)
  have hmem := dispatch_mem hq
  exact apply_stays hmem.1 hmem.2 hab

omit [FloatColumn] in
theorem later_tick (stored : List (Events.Event Value)) :
    ∃ fromTick : Int, 0 ≤ fromTick ∧ ∀ e ∈ stored, ¬fromTick ≤ e.tick := by
  induction stored with
  | nil => exact ⟨0, le_refl _, fun e he => absurd he List.not_mem_nil⟩
  | cons e es ih =>
    obtain ⟨fromTick, hpos, hall⟩ := ih
    refine ⟨max fromTick (e.tick + 1), le_trans hpos (le_max_left _ _), fun d hd => ?_⟩
    rcases List.mem_cons.mp hd with rfl | hd
    · omega
    · have := hall d hd
      omega

theorem anywhere_iff {stored : List (Events.Event Value)} {db live : Tables}
    (hord : Store.InOrder stored) (hempty : Empty owned db)
    (hlive : eachOk (dispatch PROJECTION_REGISTRY) stored db = .ok live) :
    AllEqual stored db live {t | 0 ≤ t} ↔ ∀ e ∈ stored, ¬Inserts e := by
  constructor
  · intro h e he hins
    -- a rebuild after the last tick leaves the owned tables empty
    obtain ⟨fromTick, hpos, hall⟩ := later_tick stored
    have hrun := h.rebuilds [(fromTick, 1)] (by simpa using hpos)
    have hscan : scan stored fromTick = [] := by
      unfold scan
      rw [List.filter_eq_nil_iff.mpr fun e he => by simpa using hall e he]
      rfl
    unfold eachOk at hrun
    rw [rebuild_eq Nat.one_pos, hscan] at hrun
    have htrunc : truncateAll PROJECTION_REGISTRY live = live := Except.ok.inj hrun
    obtain ⟨pre, post, before, after, -, hdispatch, hpost⟩ := eachOk_at he hlive
    obtain ⟨t, ht, k, hrow⟩ := dispatch_grows hins hdispatch
    have hkeep := eachOk_rel stays_refl stays_trans
      (fun d _ a b hab => dispatch_stays hab) hpost t k hrow
    rw [← htrunc, truncateAll_owned live t ht k] at hkeep
    cases hkeep
  · intro h
    obtain ⟨hsame, hsteps⟩ := eachOk_still (fun e he b hb => dispatch_still (h e he) hempty hb) hlive
    subst hsame
    refine ⟨fun cuts hcuts => ?_, fun plans hplans => eachOk_id fun plan hplan => ?_⟩
    · rw [applyCuts_eq (by rw [hcuts]; exact hord), hcuts]
      exact hlive
    · rw [rebuild_eq (hplans plan hplan).2]
      have htrunc : truncateAll PROJECTION_REGISTRY live = live := by
        funext t
        by_cases ht : t ∈ owned
        · funext k
          rw [truncateAll_owned live t ht, hempty t ht]
        · exact truncateAll_other live ht
      rw [htrunc]
      refine eachOk_id fun e he => hsteps e ?_
      unfold scan bySeq at he
      exact List.mem_of_mem_filter ((List.mem_insertionSort _).mp he)

/-- **Rebuilds agree with the live tables, from every tick, exactly when no
event inserts a row; from a tick that is not after an event, exactly when no
guilty verdict counts on an agent.** -/
theorem rebuild_agrees_iff {stored : List (Events.Event Value)} {db live : Tables}
    (hord : Store.InOrder stored) (hempty : Empty owned db)
    {cuts : List (List (Events.Event Value))} (hcuts : cuts.flatten = stored)
    (hlive : applyCuts PROJECTION_REGISTRY cuts db = .ok live) :
    (AllEqual stored db live {t | 0 ≤ t} ↔ ∀ e ∈ stored, ¬Inserts e) ∧
      ∀ fromTick, (∀ e ∈ stored, fromTick ≤ e.tick) → (AllEqual stored db live {fromTick} ↔
        ∀ a ∈ convictions (fun _ => none) stored, recordOf (db "agents") a = none) := by
  rw [applyCuts_eq (by rw [hcuts]; exact hord), hcuts] at hlive
  exact ⟨anywhere_iff hord hempty hlive, fun fromTick hall => restart_iff hord hempty hlive hall⟩

end Floats

section Verdict

attribute [local instance] ratioColumn

/-- An event of a committed sequence. -/
def storedEvent (seq kind : Int) (payload : Value) : Events.Event Value :=
  { seq, runId := 0, tick := 1, simTime := { year := 2030, month := 1, day := 1 }, kind, actorId := none, subjectIds := [],
    causeSeq := none, payload, sig := none, prevHash := GENESIS_PREV_HASH, hash := "" }

/-- A suit against an agent, and the verdict. -/
def guiltyVerdict : List (Events.Event Value) :=
  [storedEvent 1 SUIT_FILED (.dict [("case_id", .str "case"), ("type", .str "criminal"),
     ("plaintiff_id", .none), ("defendant_id", .str "agent"), ("crime_id", .str "crime"),
     ("cause_of_action", .str "theft"), ("claim_cents", .int 0)]),
   storedEvent 2 JUDGMENT_RENDERED (.dict [("case_id", .str "case"), ("judge_id", .str "judge"),
     ("verdict", .str "guilty"), ("fine_cents", .int 0), ("sentence_ticks", .int 0),
     ("damages_cents", .int 0), ("restitution_cents", .int 0)])]

/-- An agent without a record. -/
def cleanAgent : Tables := fun t k =>
  if t = "agents" ∧ k = ["agent"] then some (sqlRow [("criminal_record", .int 0)]) else none

theorem rebuild_convicts_twice :
    ∃ live again, applyCuts PROJECTION_REGISTRY [guiltyVerdict] cleanAgent = .ok live ∧
      recordOf (live "agents") "agent" = some 1 ∧
      rebuild PROJECTION_REGISTRY guiltyVerdict 0 5000 live = .ok again ∧
      recordOf (again "agents") "agent" = some 2 ∧
      ¬AllEqual guiltyVerdict cleanAgent live {t | 0 ≤ t} := by
  refine ⟨_, _, rfl, rfl, rfl, rfl, fun h => ?_⟩
  have hsame := h.rebuilds [(0, 5000)] (by simp)
  have hrecord := congrArg (fun x => x.toOption.map fun db => recordOf (db "agents") "agent") hsame
  revert hrecord
  decide +kernel

theorem suit_rebuilds :
    ∃ live, applyCuts PROJECTION_REGISTRY [guiltyVerdict.take 1] cleanAgent = .ok live ∧
      AllEqual (guiltyVerdict.take 1) cleanAgent live {1} ∧
      ¬AllEqual (guiltyVerdict.take 1) cleanAgent live {t | 0 ≤ t} := by
  refine ⟨_, rfl, ?_⟩
  have hempty : Empty owned cleanAgent := by
    intro t ht k
    refine if_neg fun h => agents_not_owned ?_
    rw [← h.1]
    exact ht
  have hcuts : [guiltyVerdict.take 1].flatten = guiltyVerdict.take 1 := rfl
  have hiff := rebuild_agrees_iff (List.pairwise_singleton _ _) hempty hcuts rfl
  refine ⟨(hiff.2 1 (by simp [storedEvent])).mpr (by decide), fun h => ?_⟩
  exact hiff.1.mp h _ List.mem_cons_self (Or.inl (by decide))

end Verdict

end Polis.Society
