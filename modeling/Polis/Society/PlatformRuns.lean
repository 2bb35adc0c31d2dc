/-
  Polis.Society.PlatformRuns — runs of the platform beside its read models.

  A run is a sequence of calls that return or refuse an unknown post; between
  two calls the log may go on.  No post takes the id of an earlier one.

  Main results:
    * `carries_call` — what one call does to the tables.
    * `platform_view_iff` — after every run the tables show the platform
      exactly when no follow has ended.
-/
import Polis.Society.PlatformViews

namespace Polis.Society.Media

open Lib Lib.Sql Lib.Effect Polis.Events Polis.Store

/-! ## Changes of the state -/

section Changes

variable [FloatColumn]

omit [FloatColumn] in
theorem note_aside (s : PlatformState) (post : Post) :
    (s.note post).repo = s.repo ∧ (s.note post).viewers = s.viewers ∧ (s.note post).log = s.log := by
  unfold PlatformState.note
  split
  · exact ⟨rfl, rfl, rfl⟩
  · exact ⟨rfl, rfl, rfl⟩

theorem carries_note (s : PlatformState) (post : Post) : Carries s (s.note post) [] := by
  obtain ⟨hrepo, hviewers, hlog⟩ := note_aside s post
  exact carries_aside hrepo hviewers (by rw [hlog])

theorem engages_added {s : PlatformState} {agentId postId : String} {type : EngagementType}
    {tick : Int} {post : Post} {repo : PlatformRepo} {log : EventLog Value}
    (hpost : s.repo.post? postId = some post)
    (hadd : s.repo.addEngagement { postId, agentId, tick, type } = some repo) (hs : Sound s) :
    Engages { postId, agentId, tick, type } s
      ((if type = .view then (s.withRepo repo).view postId post agentId
        else s.withRepo repo).withLog log) := by
  unfold PlatformRepo.post? at hpost
  unfold PlatformRepo.addEngagement at hadd
  split at hpost
  · cases hpost
  · next hlive =>
    split at hadd
    · cases hadd
    · cases hadd
      have hsome : (s.repo.posts.get? postId).isSome := by rw [hpost]; rfl
      by_cases htype : type = .view
      · rw [if_pos htype]
        -- the post is written back with its reach, or left as it was
        have hrepo : ∀ r : PlatformRepo, r.posts = s.repo.posts →
            SamePosts s.repo (r.putPost { post with
              reach := (PlatformState.seenBy (s.viewers.getD postId []) agentId).length }) := by
          intro r hr q
          show ((r.posts.put post.postId _).get? q).map _ = _
          rw [Dict.get?_put, hr]
          by_cases hq : q = post.postId
          · have hid : q = postId := hq.trans (hs.ids postId post hpost)
            rw [if_pos hq, hid, hpost]
            rfl
          · rw [if_neg hq]
        refine ⟨hlive, hsome, ?_, ?_, ?_, ?_, fun q => ?_⟩
        · show SamePosts s.repo (if _ then _ else _)
          split
          · intro q
            rfl
          · exact hrepo _ rfl
        · show (if _ then _ else _ : PlatformRepo).deleted = _
          split <;> rfl
        · show (if _ then _ else _ : PlatformRepo).follows = _
          split <;> rfl
        · show (if _ then _ else _ : PlatformRepo).engagements = _
          split <;> rfl
        · show ((s.viewers.put postId _).get? q).getD [] = _
          rw [Dict.get?_put]
          by_cases hq : q = postId
          · rw [if_pos hq, if_pos ⟨htype, hq⟩]
            rfl
          · rw [if_neg hq, if_neg fun hc => hq hc.2]
            rfl
      · rw [if_neg htype]
        refine ⟨hlive, hsome, fun q => rfl, rfl, rfl, rfl, fun q => ?_⟩
        rw [if_neg fun hc => htype hc.1]
        rfl

theorem carries_reposted {s : PlatformState} {post source : Post} {originalAuthorId : String}
    {depth : Nat} {tick : Int} {log : EventLog Value} {e : Events.Event Value}
    (hf : Follows (Platform.repostedDraft post source originalAuthorId depth) tick s.log log e) :
    Carries s (s.withLog log) [e] := by
  have hlast := hf.last
  have hk : e.kind = REPOST_MADE := hf.kind
  have haside : Carries s (s.withLog log) [] := carries_aside rfl rfl (by
    show s.log.lastSeq ≤ log.lastSeq
    omega)
  refine carries_one hf haside.sound fun hs db hm => ?_
  obtain ⟨db', hrun, hm'⟩ := haside.mirrors hs db hm
  cases hrun
  refine ⟨db, dispatch_neither ?_ ?_ db, hm'⟩
  · rw [hk]
    simp [postsProjection, REPOST_MADE, POST_PUBLISHED, POST_DELETED, POST_ENGAGED, CLAIM_CHECKED]
  · rw [hk]
    decide

end Changes

section Calls

variable [Uuid5] [FloatColumn] [CanonicalJson Value] [Events.Sha256] [PayloadSchemas Value]

/-! ## Calls -/

omit [Uuid5] [FloatColumn] in
theorem Platform.emit_ok {P : Platform} {d : Draft} {tick : Int} {s s' : PlatformState}
    {e : Events.Event Value} (hkind : rangePersistence d.kind = some .persisted)
    (h : P.emit d tick s = .ok e s') :
    ∃ log, s' = s.withLog log ∧ Follows d tick s.log log e := by
  obtain ⟨log, hlog, rfl⟩ := zoom_eq_ok.mp h
  exact ⟨log, rfl, emit_follows hkind hlog⟩

theorem carries_publish {P : Platform} {authorId : String} {p : PostParams} {tick : Int}
    {s s' : PlatformState} {r : Post × List (Events.Event Value)}
    (hnew : s.repo.posts.get? (s.nextPostId authorId tick) = none)
    (h : P.publish authorId p tick s = .ok r s') : Carries s s' r.2 := by
  unfold Platform.publish at h
  rw [get_bind] at h
  obtain ⟨_, s₁, h₁, h⟩ := bind_eq_ok.mp h
  obtain rfl := modify_eq_ok.mp h₁
  obtain ⟨event, s₂, h₂, h⟩ := bind_eq_ok.mp h
  obtain ⟨log, rfl, hf⟩ := Platform.emit_ok rfl h₂
  obtain ⟨_, s₃, h₃, h⟩ := bind_eq_ok.mp h
  obtain rfl := modify_eq_ok.mp h₃
  obtain ⟨rfl, rfl⟩ := pure_eq_ok.mp h
  have hpost : Carries s (((s.countPost authorId tick).withRepo
      (s.repo.putPost (Platform.newPost s authorId p tick))).withLog log) [event] :=
    carries_published hf hnew rfl rfl
  exact hpost.trans (carries_note _ _)

omit [Uuid5] in
theorem carries_engage {P : Platform} {agentId postId : String} {type : EngagementType}
    {tick : Int} {s s' : PlatformState} {es : List (Events.Event Value)}
    (h : P.engage agentId postId type tick s = .ok es s') : Carries s s' es := by
  unfold Platform.engage at h
  rw [get_bind] at h
  cases hpost : s.repo.post? postId with
  | none =>
    rw [hpost] at h
    obtain ⟨rfl, rfl⟩ := pure_eq_ok.mp h
    exact carries_refl _
  | some post =>
    rw [hpost] at h
    dsimp only at h
    cases hadd : s.repo.addEngagement { postId, agentId, tick, type } with
    | none =>
      rw [hadd] at h
      obtain ⟨rfl, rfl⟩ := pure_eq_ok.mp h
      exact carries_refl _
    | some repo =>
      rw [hadd] at h
      dsimp only at h
      obtain ⟨_, s₁, h₁, h⟩ := bind_eq_ok.mp h
      obtain rfl := modify_eq_ok.mp h₁
      obtain ⟨_, s₂, h₂, h⟩ := bind_eq_ok.mp h
      have hs₂ : s₂ = if type = .view then (s.withRepo repo).view postId post agentId
          else s.withRepo repo := by
        unfold runIf at h₂
        rcases ite_eq_ok.mp h₂ with ⟨hv, h₂⟩ | ⟨hv, h₂⟩
        · rw [if_pos hv]
          exact (modify_eq_ok.mp h₂).symm
        · rw [if_neg hv]
          exact (pure_eq_ok.mp h₂).2.symm
      have hlog : s₂.log = s.log := by
        rw [hs₂]
        split <;> rfl
      obtain ⟨event, s₃, h₃, h⟩ := bind_eq_ok.mp h
      obtain ⟨log, rfl, hf⟩ := Platform.emit_ok rfl h₃
      obtain ⟨rfl, rfl⟩ := pure_eq_ok.mp h
      rw [hlog] at hf
      subst hs₂
      exact carries_engaged (engages_added hpost hadd) hf

theorem carries_repost {P : Platform} {authorId : String} {p : RepostParams} {tick : Int}
    {s s' : PlatformState} {r : Post × List (Events.Event Value)}
    (hnew : s.repo.posts.get? (s.nextPostId authorId tick) = none)
    (h : P.repost authorId p tick s = .ok r s') : Carries s s' r.2 := by
  unfold Platform.repost at h
  rw [get_bind] at h
  cases hsource : s.repo.post? p.sourceId with
  | none =>
    rw [hsource] at h
    cases h
  | some source =>
    rw [hsource] at h
    dsimp only at h
    obtain ⟨_, s₁, h₁, h⟩ := bind_eq_ok.mp h
    obtain rfl := modify_eq_ok.mp h₁
    obtain ⟨published, s₂, h₂, h⟩ := bind_eq_ok.mp h
    obtain ⟨log₁, rfl, hf₁⟩ := Platform.emit_ok rfl h₂
    obtain ⟨reposted, s₃, h₃, h⟩ := bind_eq_ok.mp h
    obtain ⟨log₂, rfl, hf₂⟩ := Platform.emit_ok rfl h₃
    obtain ⟨engaged, s₄, h₄, h⟩ := bind_eq_ok.mp h
    obtain ⟨_, s₅, h₅, h⟩ := bind_eq_ok.mp h
    obtain rfl := modify_eq_ok.mp h₅
    obtain ⟨rfl, rfl⟩ := pure_eq_ok.mp h
    have hpost : Carries s (((s.countPost authorId tick).withRepo
        (s.repo.putPost (Platform.repostOf s authorId p source tick))).withLog log₁)
        [published] := carries_published hf₁ hnew rfl rfl
    have hrest := (carries_reposted hf₂).trans ((carries_engage h₄).trans
      (carries_note _ (Platform.repostOf s authorId p source tick)))
    rw [List.append_nil] at hrest
    exact hpost.trans hrest

omit [Uuid5] in
theorem carries_follow {P : Platform} {a b context : String} {tick : Int} {s s' : PlatformState}
    {es : List (Events.Event Value)} (h : P.follow a b context tick s = .ok es s') :
    Carries s s' es := by
  unfold Platform.follow at h
  rw [get_bind] at h
  by_cases hself : a = b
  · rw [if_pos hself] at h
    obtain ⟨rfl, rfl⟩ := pure_eq_ok.mp h
    exact carries_refl _
  · rw [if_neg hself] at h
    cases hput : s.repo.putFollow (a, b) tick with
    | none =>
      rw [hput] at h
      obtain ⟨rfl, rfl⟩ := pure_eq_ok.mp h
      exact carries_refl _
    | some repo =>
      rw [hput] at h
      dsimp only at h
      obtain ⟨_, s₁, h₁, h⟩ := bind_eq_ok.mp h
      obtain rfl := modify_eq_ok.mp h₁
      obtain ⟨event, s₂, h₂, h⟩ := bind_eq_ok.mp h
      obtain ⟨log, rfl, hf⟩ := Platform.emit_ok rfl h₂
      obtain ⟨rfl, rfl⟩ := pure_eq_ok.mp h
      unfold PlatformRepo.putFollow at hput
      split at hput
      · cases hput
      · cases hput
        exact @carries_followed _ _ _ _ _ _ _ _ tick hf rfl rfl

omit [Uuid5] in
theorem carries_unfollow {P : Platform} {a b reason : String} {tick : Int}
    {s s' : PlatformState} {es : List (Events.Event Value)}
    (h : P.unfollow a b reason tick s = .ok es s') : Carries s s' es := by
  unfold Platform.unfollow at h
  rw [get_bind] at h
  cases hend : s.repo.endFollow (a, b) tick with
  | none =>
    rw [hend] at h
    obtain ⟨rfl, rfl⟩ := pure_eq_ok.mp h
    exact carries_refl _
  | some repo =>
    rw [hend] at h
    dsimp only at h
    obtain ⟨_, s₁, h₁, h⟩ := bind_eq_ok.mp h
    obtain rfl := modify_eq_ok.mp h₁
    obtain ⟨event, s₂, h₂, h⟩ := bind_eq_ok.mp h
    obtain ⟨log, rfl, hf⟩ := Platform.emit_ok rfl h₂
    obtain ⟨rfl, rfl⟩ := pure_eq_ok.mp h
    unfold PlatformRepo.endFollow at hend
    split at hend
    · next started hthere =>
      cases hend
      exact carries_unfollowed hf hthere rfl rfl
    · cases hend

omit [Uuid5] in
theorem carries_delete {P : Platform} {postId reason : String} {tick : Int}
    {s s' : PlatformState} {es : List (Events.Event Value)}
    (h : P.delete postId reason tick s = .ok es s') : Carries s s' es := by
  unfold Platform.delete at h
  rw [get_bind] at h
  cases hpost : s.repo.post? postId with
  | none =>
    rw [hpost] at h
    cases h
  | some post =>
    rw [hpost] at h
    dsimp only at h
    obtain ⟨_, s₁, h₁, h⟩ := bind_eq_ok.mp h
    obtain rfl := modify_eq_ok.mp h₁
    obtain ⟨event, s₂, h₂, h⟩ := bind_eq_ok.mp h
    obtain ⟨log, rfl, hf⟩ := Platform.emit_ok rfl h₂
    obtain ⟨rfl, rfl⟩ := pure_eq_ok.mp h
    refine carries_deleted hf (?_ : _ = some post)
    unfold PlatformRepo.post? at hpost
    split at hpost
    · cases hpost
    · exact hpost

/-! ## Runs -/

/-- A call of the platform. -/
inductive PlatformOp where
  | publish (authorId : String) (params : PostParams) (tick : Int)
  | repost (authorId : String) (params : RepostParams) (tick : Int)
  | engage (agentId postId : String) (type : EngagementType) (tick : Int)
  | follow (followerId followeeId context : String) (tick : Int)
  | unfollow (followerId followeeId reason : String) (tick : Int)
  | delete (postId reason : String) (tick : Int)

/-- A call, as the events it returns. -/
def PlatformOp.run (P : Platform) : PlatformOp → PlatformM (List (Events.Event Value))
  | publish authorId params tick => do pure (← P.publish authorId params tick).2
  | repost authorId params tick => do pure (← P.repost authorId params tick).2
  | engage agentId postId type tick => P.engage agentId postId type tick
  | follow a b context tick => P.follow a b context tick
  | unfollow a b reason tick => P.unfollow a b reason tick
  | delete postId reason tick => P.delete postId reason tick

/-- A new post takes an id that no post has. -/
def PlatformOp.TakesNewId (s : PlatformState) : PlatformOp → Prop
  | publish authorId _ tick | repost authorId _ tick =>
    s.repo.posts.get? (s.nextPostId authorId tick) = none
  | _ => True

theorem carries_call {P : Platform} {op : PlatformOp} {s s' : PlatformState}
    {es : List (Events.Event Value)} (hnew : op.TakesNewId s) (h : op.run P s = .ok es s') :
    Carries s s' es := by
  cases op with
  | publish authorId params tick =>
    obtain ⟨r, t, hrun, h⟩ := bind_eq_ok.mp h
    obtain ⟨rfl, rfl⟩ := pure_eq_ok.mp h
    exact carries_publish hnew hrun
  | repost authorId params tick =>
    obtain ⟨r, t, hrun, h⟩ := bind_eq_ok.mp h
    obtain ⟨rfl, rfl⟩ := pure_eq_ok.mp h
    exact carries_repost hnew hrun
  | engage agentId postId type tick => exact carries_engage h
  | follow a b context tick => exact carries_follow h
  | unfollow a b reason tick => exact carries_unfollow h
  | delete postId reason tick => exact carries_delete h

/-- A run of a platform that began empty, with the events it returned. -/
inductive PlatformRun (P : Platform) : List (Events.Event Value) → PlatformState → Prop where
  | start (log : EventLog Value) : PlatformRun P [] { log }
  | call {es : List (Events.Event Value)} {s : PlatformState} (op : PlatformOp)
      {fs : List (Events.Event Value)} {s' : PlatformState} (hrun : PlatformRun P es s)
      (hnew : op.TakesNewId s) (hcall : op.run P s = .ok fs s') : PlatformRun P (es ++ fs) s'
  /-- A call that refuses an unknown post. -/
  | refused {es : List (Events.Event Value)} {s : PlatformState} (op : PlatformOp)
      {err : PyError} {s' : PlatformState} (hrun : PlatformRun P es s)
      (hcall : op.run P s = .error (.py err) s') : PlatformRun P es s'
  /-- What other services and commits do to the log. -/
  | onwards {es : List (Events.Event Value)} {s : PlatformState} (log : EventLog Value)
      (hrun : PlatformRun P es s) (hlog : s.log.lastSeq ≤ log.lastSeq) :
      PlatformRun P es (s.withLog log)

/-! ## Calls that refuse -/

/-- A fault of the log. -/
def OfLog (f : Fault) : Prop := ∃ fault, f = Fault.log fault

omit [Uuid5] [FloatColumn] in
theorem Platform.emit_raises (P : Platform) (d : Draft) (tick : Int) :
    Raises OfLog (P.emit d tick) := by
  refine raises_zoom fun log f log' h => ?_
  unfold Society.emit at h
  split at h
  · cases h
  · cases h
    exact ⟨_, rfl⟩

omit [Uuid5] [FloatColumn] in
theorem engage_raises (P : Platform) (agentId postId : String) (type : EngagementType)
    (tick : Int) : Raises OfLog (P.engage agentId postId type tick) := by
  unfold Platform.engage
  refine raises_bind (raises_get _) fun s => ?_
  split
  · exact raises_pure _ _
  · dsimp only
    split
    · exact raises_pure _ _
    · refine raises_bind (raises_modify _ _) fun _ => raises_bind ?_ fun _ =>
        raises_bind (P.emit_raises _ _) fun _ => raises_pure _ _
      exact raises_ite (raises_modify _ _) (raises_pure _ _)

theorem refused_same {P : Platform} {op : PlatformOp} {err : PyError} {s s' : PlatformState}
    (h : op.run P s = .error (.py err) s') : s' = s := by
  have hlog : ¬OfLog (.py err) := by
    rintro ⟨fault, hfault⟩
    cases hfault
  cases op with
  | publish authorId params tick =>
    refine absurd (raises_bind ?_ (fun _ => raises_pure _ _) _ _ _ h) hlog
    unfold Platform.publish
    exact raises_bind (raises_get _) fun s => raises_bind (raises_modify _ _) fun _ =>
      raises_bind (P.emit_raises _ _) fun _ => raises_bind (raises_modify _ _) fun _ =>
      raises_pure _ _
  | repost authorId params tick =>
    rcases bind_eq_error.mp h with h | ⟨_, _, _, h⟩
    · unfold Platform.repost at h
      rw [get_bind] at h
      cases hsource : s.repo.post? params.sourceId with
      | none =>
        rw [hsource] at h
        cases h
        rfl
      | some source =>
        rw [hsource] at h
        dsimp only at h
        refine absurd (raises_bind (raises_modify _ _) (fun _ => ?_) _ _ _ h) hlog
        exact raises_bind (P.emit_raises _ _) fun _ => raises_bind (P.emit_raises _ _) fun _ =>
          raises_bind (engage_raises P _ _ _ _) fun _ => raises_bind (raises_modify _ _) fun _ =>
          raises_pure _ _
    · cases h
  | engage agentId postId type tick => exact absurd (engage_raises P _ _ _ _ _ _ _ h) hlog
  | follow a b context tick =>
    refine absurd (raises_bind (raises_get _) (fun s => ?_) _ _ _ h) hlog
    refine raises_ite (raises_pure _ _) ?_
    split
    · exact raises_pure _ _
    · exact raises_bind (raises_modify _ _) fun _ => raises_bind (P.emit_raises _ _) fun _ =>
        raises_pure _ _
  | unfollow a b reason tick =>
    refine absurd (raises_bind (raises_get _) (fun s => ?_) _ _ _ h) hlog
    split
    · exact raises_pure _ _
    · exact raises_bind (raises_modify _ _) fun _ => raises_bind (P.emit_raises _ _) fun _ =>
        raises_pure _ _
  | delete postId reason tick =>
    change P.delete postId reason tick s = _ at h
    unfold Platform.delete at h
    rw [get_bind] at h
    cases hpost : s.repo.post? postId with
    | none =>
      rw [hpost] at h
      cases h
      rfl
    | some post =>
      rw [hpost] at h
      dsimp only at h
      refine absurd (raises_bind (raises_modify _ _) (fun _ => ?_) _ _ _ h) hlog
      exact raises_bind (P.emit_raises _ _) fun _ => raises_pure _ _

/-! ## What the tables show -/

/-- The distinct viewers of a post. -/
def viewersOf (r : PlatformRepo) (postId : String) : List String :=
  ((r.engagements.filter fun e => e.postId = postId ∧ e.type = .view).map
    Engagement.agentId).dedup

/-- The posts of the tables are the posts that are not deleted. -/
structure PostsAgree (s : PlatformState) (db : Tables) : Prop where
  each : ∀ postId post, s.repo.post? postId = some post → ∃ r, db "posts" [postId] = some r ∧
    r "deleted_tick" = .none ∧ (∀ c ∈ postColumns post, r c.1 = c.2) ∧
    r "reach" = .int (viewersOf s.repo postId).length
  only : ∀ k r, db "posts" k = some r → r "deleted_tick" = .none →
    ∃ postId post, k = [postId] ∧ s.repo.post? postId = some post

/-- The follows of the tables that have not ended are those of the platform. -/
def FollowsAgree (s : PlatformState) (db : Tables) : Prop :=
  ∀ k, (∃ r, db "follows" k = some r ∧ r "ended_tick" = .none) ↔
    ∃ a b, k = [a, b] ∧ s.repo.following (a, b) = true

/-- The tables show the platform. -/
structure ViewAgrees (s : PlatformState) (db : Tables) : Prop where
  posts : PostsAgree s db
  follows : FollowsAgree s db

omit [Uuid5] [FloatColumn] [CanonicalJson Value] [Events.Sha256] [PayloadSchemas Value] in
theorem mem_viewersOf {r : PlatformRepo} {postId a : String} :
    a ∈ viewersOf r postId ↔ Viewed r postId a := by
  unfold viewersOf Viewed
  simp only [List.mem_dedup, List.mem_map, List.mem_filter, decide_eq_true_eq]
  constructor
  · rintro ⟨e, ⟨he, hpost, htype⟩, hagent⟩
    exact ⟨e, he, hpost, hagent, htype⟩
  · rintro ⟨e, he, hpost, hagent, htype⟩
    exact ⟨e, ⟨he, hpost, htype⟩, hagent⟩

omit [Uuid5] [FloatColumn] [CanonicalJson Value] [Events.Sha256] [PayloadSchemas Value] in
theorem Sound.reach_eq {s : PlatformState} (hs : Sound s) {postId : String}
    (hlive : postId ∉ s.repo.deleted) : s.reach postId = (viewersOf s.repo postId).length := by
  refine List.Perm.length_eq ?_
  refine (List.perm_ext_iff_of_nodup (hs.distinct postId) (List.nodup_dedup _)).mpr fun a => ?_
  rw [hs.viewed postId hlive a]
  exact mem_viewersOf.symm

omit [Uuid5] [CanonicalJson Value] [Events.Sha256] [PayloadSchemas Value] in
theorem mirrors_posts {s : PlatformState} {db : Tables} (hs : Sound s) (hm : Mirrors s db) :
    PostsAgree s db := by
  constructor
  · intro postId post hpost
    unfold PlatformRepo.post? at hpost
    split at hpost
    · cases hpost
    · next hlive =>
      have hshow := hm.posts postId
      unfold ShowsPost at hshow
      rw [hpost] at hshow
      obtain ⟨r, hr, hcols, hdel, hreach⟩ := hshow
      refine ⟨r, hr, hdel.mpr hlive, hcols, ?_⟩
      rw [hreach hlive, hs.reach_eq hlive]
  · intro k r hk hdel
    obtain ⟨postId, rfl⟩ := hm.postKeys k r hk
    have hshow := hm.posts postId
    unfold ShowsPost at hshow
    cases hpost : s.repo.posts.get? postId with
    | none =>
      rw [hpost] at hshow
      rw [show db "posts" [postId] = none from hshow] at hk
      cases hk
    | some post =>
      rw [hpost] at hshow
      obtain ⟨r', hr', -, hdel', -⟩ := hshow
      rw [hr'] at hk
      cases hk
      refine ⟨postId, post, rfl, ?_⟩
      unfold PlatformRepo.post?
      rw [if_neg (hdel'.mp hdel), hpost]

omit [Uuid5] [CanonicalJson Value] [Events.Sha256] [PayloadSchemas Value] in
theorem mirrors_follows {s : PlatformState} {db : Tables} (hm : Mirrors s db) :
    FollowsAgree s db ↔ ∀ key row, s.repo.follows.get? key = some row → row.2 = none := by
  constructor
  · intro h key row hkey
    have hshow := hm.follows key.1 key.2
    unfold ShowsFollow at hshow
    rw [hkey] at hshow
    obtain ⟨a, b, hab, hfollowing⟩ := (h [key.1, key.2]).mp hshow
    obtain ⟨ha, hb⟩ := List.cons.inj hab
    have hsame : key = (a, b) := Prod.ext ha (List.cons.inj hb).1
    unfold PlatformRepo.following at hfollowing
    rw [← hsame, hkey] at hfollowing
    obtain ⟨started, ended⟩ := row
    cases ended with
    | none => rfl
    | some tick => cases hfollowing
  · intro h k
    constructor
    · rintro ⟨r, hr, -⟩
      obtain ⟨a, b, rfl⟩ := hm.followKeys k r hr
      refine ⟨a, b, rfl, ?_⟩
      have hshow := hm.follows a b
      unfold ShowsFollow at hshow
      unfold PlatformRepo.following
      cases hrow : s.repo.follows.get? (a, b) with
      | none =>
        rw [hrow] at hshow
        rw [show db "follows" [a, b] = none from hshow] at hr
        cases hr
      | some row =>
        have hended := h (a, b) row hrow
        obtain ⟨started, ended⟩ := row
        cases hended
        rfl
    · rintro ⟨a, b, rfl, hfollowing⟩
      have hshow := hm.follows a b
      unfold ShowsFollow at hshow
      unfold PlatformRepo.following at hfollowing
      cases hrow : s.repo.follows.get? (a, b) with
      | none =>
        rw [hrow] at hfollowing
        cases hfollowing
      | some row =>
        rw [hrow] at hshow
        exact hshow

/-! ## The theorem -/

/-- Tables before the first event. -/
def noTables : Tables := fun _ _ => none

omit [Uuid5] [FloatColumn] [CanonicalJson Value] [Events.Sha256] [PayloadSchemas Value] in
theorem start_sound (log : EventLog Value) : Sound { log } where
  ids := fun postId post h => by cases h
  deleted := fun postId h => absurd h List.not_mem_nil
  engaged := fun e h => absurd h List.not_mem_nil
  distinct := fun postId => List.nodup_nil
  viewed := fun postId _ a =>
    iff_of_false List.not_mem_nil fun ⟨_, he, _⟩ => absurd he List.not_mem_nil

omit [Uuid5] [CanonicalJson Value] [Events.Sha256] [PayloadSchemas Value] in
theorem start_mirrors (log : EventLog Value) : Mirrors { log } noTables where
  posts := fun postId => rfl
  postKeys := fun k r h => by cases h
  viewers := fun postId a _ => iff_of_false (by simp [noTables]) List.not_mem_nil
  follows := fun a b => rfl
  followKeys := fun k r h => by cases h
  engagements := fun k r h => by cases h

theorem run_carries {P : Platform} {es : List (Events.Event Value)} {s : PlatformState}
    (h : PlatformRun P es s) : ∃ log, Carries { log } s es := by
  induction h with
  | start log => exact ⟨log, carries_refl _⟩
  | call op hrun hnew hcall ih =>
    obtain ⟨log, hlog⟩ := ih
    exact ⟨log, hlog.trans (carries_call hnew hcall)⟩
  | refused op hrun hcall ih =>
    rw [refused_same hcall]
    exact ih
  | @onwards es s log hrun hlater ih =>
    obtain ⟨log₀, hlog₀⟩ := ih
    have haside : Carries s (s.withLog log) [] := carries_aside rfl rfl hlater
    have hstep := hlog₀.trans haside
    rw [List.append_nil] at hstep
    exact ⟨log₀, hstep⟩

/-- **After every run the tables show the platform exactly when no follow has
ended.** -/
theorem platform_view_iff {P : Platform} {es : List (Events.Event Value)} {s : PlatformState}
    (hrun : PlatformRun P es s) {cuts : List (List (Events.Event Value))}
    (hcuts : cuts.flatten = es) :
    ∃ db, applyCuts platformViews cuts noTables = .ok db ∧ PostsAgree s db ∧
      (ViewAgrees s db ↔ ∀ key row, s.repo.follows.get? key = some row → row.2 = none) := by
  obtain ⟨log, hcarries⟩ := run_carries hrun
  obtain ⟨db, hfold, hm⟩ := hcarries.mirrors (start_sound log) noTables (start_mirrors log)
  have hs := hcarries.sound (start_sound log)
  have hposts := mirrors_posts hs hm
  refine ⟨db, ?_, hposts, ?_⟩
  · rw [applyCuts_eq (by rw [hcuts]; exact hcarries.inOrder), hcuts]
    exact hfold
  · rw [← mirrors_follows hm]
    constructor
    · exact ViewAgrees.follows
    · exact fun hfollows => ⟨hposts, hfollows⟩

end Calls

/-! ## Closed runs -/

section Closed

attribute [local instance] blankJson blankDigest anySchema ratioColumn

/-- Identifiers that are their names. -/
abbrev namedUuid : Uuid5 := ⟨fun _ name => name⟩

attribute [local instance] namedUuid

/-- A platform with a journal that takes everything. -/
def plainPlatform : Platform := ⟨plainJournal⟩

theorem unfollow_stays :
    ∃ es s db, PlatformRun plainPlatform es s ∧ applyCuts platformViews [es] noTables = .ok db ∧
      s.repo.following ("ag_1", "ag_2") = false ∧
      (∃ r, db "follows" ["ag_1", "ag_2"] = some r ∧ r "ended_tick" = .none) ∧
      ¬ViewAgrees s db := by
  have hfollow := PlatformRun.call (P := plainPlatform) (.follow "ag_1" "ag_2" "feed" 1)
    (.start (EventLog.new 0 GENESIS_PREV_HASH)) trivial rfl
  have hunfollow := hfollow.call (.unfollow "ag_1" "ag_2" "unfollow" 2) trivial rfl
  refine ⟨_, _, _, hunfollow, rfl, rfl, ⟨_, rfl, rfl⟩, fun h => ?_⟩
  obtain ⟨a, b, hkey, hfollowing⟩ := (h.follows ["ag_1", "ag_2"]).mp ⟨_, rfl, rfl⟩
  obtain ⟨ha, hb⟩ := List.cons.inj hkey
  rw [← ha, ← (List.cons.inj hb).1] at hfollowing
  revert hfollowing
  decide +kernel

theorem follow_shown :
    ∃ es s db, PlatformRun plainPlatform es s ∧ s.repo.following ("ag_2", "ag_1") = true ∧
      applyCuts platformViews [es] noTables = .ok db ∧ ViewAgrees s db := by
  have hpublish := PlatformRun.call (P := plainPlatform) (.publish "ag_1" { text := "hello" } 1)
    (.start (EventLog.new 0 GENESIS_PREV_HASH)) rfl rfl
  have hfollow := hpublish.call (.follow "ag_2" "ag_1" "feed" 2) trivial rfl
  obtain ⟨db, hfold, -, hiff⟩ := platform_view_iff hfollow List.flatten_singleton
  refine ⟨_, _, db, hfollow, rfl, hfold, hiff.mpr fun key row hrow => ?_⟩
  have hmem := Dict.lookup_mem hrow
  change (key, row) ∈ [(("ag_2", "ag_1"), ((2 : Int), (none : Option Int)))] at hmem
  cases List.mem_singleton.mp hmem
  rfl

end Closed

end Polis.Society.Media
