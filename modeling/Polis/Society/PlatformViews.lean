/-
  Polis.Society.PlatformViews — the read models of the platform
  (`society/projections.py` with `society/media/platform.py`).

  The tables are folded from the events the platform returns.  Posts, their
  parents and roots and their viewers follow the platform call by call; the
  end of a follow is an event that no branch of its projection looks at.
-/
import Polis.Society.Platform
import Polis.Society.Shapes
import Std.Data.String.ToInt

namespace Polis.Society.Media

open Lib Lib.Sql Lib.Effect Polis.Events Polis.Store

/-! ## The events of a durable kind -/

section Journals

variable [CanonicalJson Value] [Events.Sha256] [PayloadSchemas Value]

/-- An event of a draft that was staged behind a log. -/
structure Follows (d : Draft) (tick : Int) (log log' : EventLog Value)
    (e : Events.Event Value) : Prop where
  kind : e.kind = d.kind
  payload : e.payload = .dict d.payload
  tick : e.tick = tick
  seq : e.seq = log.lastSeq + 1
  last : log'.lastSeq = log.lastSeq + 1

theorem emit_follows {j : Journal} {d : Draft} {tick : Int} {log log' : EventLog Value}
    {e : Events.Event Value} (hkind : rangePersistence d.kind = some .persisted)
    (h : emit j d tick log = .ok e log') : Follows d tick log log' e := by
  obtain ⟨hseal, rfl⟩ := emit_sealed hkind h
  unfold sealEvent at hseal
  obtain ⟨digest, -, hsome⟩ := Option.bind_eq_some_iff.mp hseal
  cases hsome
  exact ⟨rfl, rfl, rfl, rfl, rfl⟩

end Journals

section Floats

variable [FloatColumn]

/-! ## The statements of each event -/

/-- The projections of the platform. -/
def platformViews : List Projection := [postsProjection, followsProjection]

/-- The columns of a post. -/
def postColumns (post : Post) : List (String × Value) :=
  [("author_id", .str post.authorId), ("text", .str post.text), ("topic", .ofStr? post.topic),
    ("stance_proposition", .ofStr? post.stanceProposition),
    ("stance_value", (post.stanceValue.map FloatValue.ofRat).getD .none),
    ("in_reply_to", .ofStr? post.inReplyTo), ("repost_of", .ofStr? post.repostOf),
    ("root_post_id", .str post.rootPostId), ("claims", .list post.claims)]

theorem published_statements {e : Events.Event Value} {post : Post} {n : Nat}
    {ids : List String} (hk : e.kind = POST_PUBLISHED)
    (hp : e.payload = .dict (Platform.publishedDraft post n ids).payload) :
    postsStatements e = .ok [.upsert "posts" [post.postId] (postRow e (postColumns post)) fun r =>
      (Row.copy ["text", "topic", "stance_proposition", "stance_value", "in_reply_to",
        "repost_of", "root_post_id", "claims"] (postRow e (postColumns post)) r).write
          [("deleted_tick", .none)]] := by
  obtain ⟨⟨seq, runId, tick, simTime, kind, actorId, subjectIds, causeSeq, payload, sig,
    prevHash⟩, hash⟩ := e
  subst hk
  subst hp
  rfl

/-- The row of an engagement. -/
def engagementRow (row : Engagement) : Row Value :=
  sqlRow [("post_id", .str row.postId), ("agent_id", .str row.agentId), ("tick", .int row.tick),
    ("type", .str row.type.text)]

/-- One more viewer. -/
def oneMore (r : Row Value) : Row Value := r.write [("reach", plus (r "reach") 1)]

theorem engaged_statements {e : Events.Event Value} {row : Engagement} {authorId : String}
    (hk : e.kind = POST_ENGAGED) (ht : e.tick = row.tick)
    (hp : e.payload = .dict (Platform.engagedDraft row authorId).payload) :
    postsStatements e = .ok (.insert "engagements" [toString e.seq] (engagementRow row) ::
      if row.type = .view then
        [.insertThen "post_viewers" [row.postId, row.agentId] (sqlRow []) "posts" [row.postId]
          oneMore]
      else []) := by
  obtain ⟨⟨seq, runId, tick, simTime, kind, actorId, subjectIds, causeSeq, payload, sig,
    prevHash⟩, hash⟩ := e
  obtain ⟨postId, agentId, rowTick, type⟩ := row
  subst hk
  subst hp
  change tick = rowTick at ht
  subst ht
  cases type <;> rfl

theorem deleted_statements {e : Events.Event Value} {postId : String} {post : Post}
    {reason : String} (hk : e.kind = POST_DELETED)
    (hp : e.payload = .dict (Platform.deletedDraft postId post reason).payload) :
    postsStatements e = .ok [.update "posts" [postId] fun r =>
      r.write [("deleted_tick", .int e.tick)]] := by
  obtain ⟨⟨seq, runId, tick, simTime, kind, actorId, subjectIds, causeSeq, payload, sig,
    prevHash⟩, hash⟩ := e
  subst hk
  subst hp
  rfl

/-- The row of a follow. -/
def followRow (e : Events.Event Value) (context : Value) : Row Value :=
  sqlRow [("started_tick", .int e.tick), ("context", context)]

omit [FloatColumn] in
theorem followed_statements {e : Events.Event Value} {followerId followeeId : String}
    {context : Value} (hk : e.kind = FOLLOW_CREATED)
    (hp : e.payload = .dict (Platform.followDraft FOLLOW_CREATED followerId followeeId
      ("context", context)).payload) :
    followsStatements e = .ok [.upsert "follows" [followerId, followeeId] (followRow e context)
      fun r => (Row.copy ["started_tick", "context"] (followRow e context) r).write
        [("ended_tick", .none)]] := by
  obtain ⟨⟨seq, runId, tick, simTime, kind, actorId, subjectIds, causeSeq, payload, sig,
    prevHash⟩, hash⟩ := e
  subst hk
  subst hp
  rfl

omit [FloatColumn] in
theorem unfollowed_statements {e : Events.Event Value} (hk : e.kind = FOLLOW_ENDED) :
    followsStatements e = .ok [] := by
  unfold followsStatements
  rw [if_neg (by rw [hk]; decide), if_neg (by rw [hk]; decide)]
  rfl

theorem dispatch_posts {e : Events.Event Value} (hk : e.kind ∈ postsProjection.handles)
    (hf : e.kind ∉ followsProjection.handles) (db : Tables) :
    dispatch platformViews e db = postsProjection.apply e db := by
  unfold dispatch platformViews
  rw [List.filter_cons_of_pos (by simpa using hk), List.filter_cons_of_neg (by simpa using hf)]
  show eachOk _ [postsProjection] db = _
  unfold eachOk
  cases postsProjection.apply e db <;> rfl

theorem dispatch_follows {e : Events.Event Value} (hk : e.kind ∉ postsProjection.handles)
    (hf : e.kind ∈ followsProjection.handles) (db : Tables) :
    dispatch platformViews e db = followsProjection.apply e db := by
  unfold dispatch platformViews
  rw [List.filter_cons_of_neg (by simpa using hk), List.filter_cons_of_pos (by simpa using hf)]
  show eachOk _ [followsProjection] db = _
  unfold eachOk
  cases followsProjection.apply e db <;> rfl

theorem dispatch_neither {e : Events.Event Value} (hk : e.kind ∉ postsProjection.handles)
    (hf : e.kind ∉ followsProjection.handles) (db : Tables) :
    dispatch platformViews e db = .ok db := by
  unfold dispatch platformViews
  rw [List.filter_cons_of_neg (by simpa using hk), List.filter_cons_of_neg (by simpa using hf)]
  rfl

/-! ## The platform on its own -/

/-- An agent that viewed a post. -/
def Viewed (r : PlatformRepo) (postId agentId : String) : Prop :=
  ∃ e ∈ r.engagements, e.postId = postId ∧ e.agentId = agentId ∧ e.type = .view

/-- What holds of a platform between two calls. -/
structure Sound (s : PlatformState) : Prop where
  ids : ∀ postId post, s.repo.posts.get? postId = some post → post.postId = postId
  deleted : ∀ postId ∈ s.repo.deleted, (s.repo.posts.get? postId).isSome
  engaged : ∀ e ∈ s.repo.engagements, (s.repo.posts.get? e.postId).isSome
  distinct : ∀ postId, (s.viewers.getD postId []).Nodup
  viewed : ∀ postId, postId ∉ s.repo.deleted →
    ∀ a, a ∈ s.viewers.getD postId [] ↔ Viewed s.repo postId a

/-! ## The tables of a platform -/

/-- The row of a post that the platform holds, and of one it does not hold. -/
def ShowsPost (s : PlatformState) (postId : String) (row : Option (Row Value)) : Prop :=
  match (s.repo.posts.get? postId).map postColumns with
  | none => row = none
  | some columns => ∃ r, row = some r ∧ (∀ c ∈ columns, r c.1 = c.2) ∧
      (r "deleted_tick" = .none ↔ postId ∉ s.repo.deleted) ∧
      (postId ∉ s.repo.deleted → r "reach" = .int (s.reach postId))

/-- The row of a follow: it never ends. -/
def ShowsFollow (s : PlatformState) (followerId followeeId : String)
    (row : Option (Row Value)) : Prop :=
  match s.repo.follows.get? (followerId, followeeId) with
  | none => row = none
  | some _ => ∃ r, row = some r ∧ r "ended_tick" = .none

/-- Tables that show a platform. -/
structure Mirrors (s : PlatformState) (db : Tables) : Prop where
  posts : ∀ postId, ShowsPost s postId (db "posts" [postId])
  postKeys : ∀ k r, db "posts" k = some r → ∃ postId, k = [postId]
  viewers : ∀ postId agentId, postId ∉ s.repo.deleted →
    ((db "post_viewers" [postId, agentId]).isSome ↔ agentId ∈ s.viewers.getD postId [])
  follows : ∀ a b, ShowsFollow s a b (db "follows" [a, b])
  followKeys : ∀ k r, db "follows" k = some r → ∃ a b, k = [a, b]
  engagements : ∀ k r, db "engagements" k = some r →
    ∃ n : Int, k = [toString n] ∧ n ≤ s.log.lastSeq

/-- What a call carries over to the tables: the events it returned fold to
tables that show the platform it left. -/
structure Carries (s s' : PlatformState) (es : List (Events.Event Value)) : Prop where
  sound : Sound s → Sound s'
  mirrors : Sound s → ∀ db, Mirrors s db →
    ∃ db', eachOk (dispatch platformViews) es db = .ok db' ∧ Mirrors s' db'
  later : s.log.lastSeq ≤ s'.log.lastSeq
  seqs : ∀ e ∈ es, s.log.lastSeq < e.seq ∧ e.seq ≤ s'.log.lastSeq
  inOrder : Store.InOrder es

theorem carries_refl (s : PlatformState) : Carries s s [] where
  sound := id
  mirrors := fun _ db h => ⟨db, rfl, h⟩
  later := le_refl _
  seqs := fun _ he => absurd he List.not_mem_nil
  inOrder := List.Pairwise.nil

theorem Carries.trans {s t u : PlatformState} {es fs : List (Events.Event Value)}
    (h : Carries s t es) (h' : Carries t u fs) : Carries s u (es ++ fs) where
  sound := fun hs => h'.sound (h.sound hs)
  mirrors := fun hs db hdb => by
    obtain ⟨mid, hmid, hm⟩ := h.mirrors hs db hdb
    obtain ⟨last, hlast, hl⟩ := h'.mirrors (h.sound hs) mid hm
    refine ⟨last, ?_, hl⟩
    rw [eachOk_append, hmid]
    exact hlast
  later := le_trans h.later h'.later
  seqs := fun e he => by
    have := h.later
    have := h'.later
    rcases List.mem_append.mp he with he | he
    · have := h.seqs e he
      omega
    · have := h'.seqs e he
      omega
  inOrder := by
    refine List.pairwise_append.mpr ⟨h.inOrder, h'.inOrder, fun a ha b hb => ?_⟩
    have := (h.seqs a ha).2
    have := (h'.seqs b hb).1
    omega

theorem carries_one {s s' : PlatformState} {e : Events.Event Value} {d : Draft} {tick : Int}
    (hf : Follows d tick s.log s'.log e) (hsound : Sound s → Sound s')
    (hmirrors : Sound s → ∀ db, Mirrors s db →
      ∃ db', dispatch platformViews e db = .ok db' ∧ Mirrors s' db') : Carries s s' [e] where
  sound := hsound
  mirrors := fun hs db hdb => by
    obtain ⟨db', hdispatch, hm⟩ := hmirrors hs db hdb
    refine ⟨db', ?_, hm⟩
    unfold eachOk
    rw [hdispatch]
    rfl
  later := by
    have := hf.last
    omega
  seqs := fun _ he => by
    have := hf.seq
    have := hf.last
    rw [List.mem_singleton.mp he]
    omega
  inOrder := List.pairwise_singleton _ _

theorem carries_aside {s s' : PlatformState} (hrepo : s'.repo = s.repo)
    (hviewers : s'.viewers = s.viewers) (hlog : s.log.lastSeq ≤ s'.log.lastSeq) :
    Carries s s' [] where
  sound := fun h => by
    refine ⟨?_, ?_, ?_, ?_, ?_⟩
    · rw [hrepo]
      exact h.ids
    · rw [hrepo]
      exact h.deleted
    · rw [hrepo]
      exact h.engaged
    · rw [hviewers]
      exact h.distinct
    · rw [hrepo, hviewers]
      exact h.viewed
  mirrors := fun _ db h => by
    refine ⟨db, rfl, ?_, h.postKeys, ?_, ?_, h.followKeys, ?_⟩
    · intro postId
      have := h.posts postId
      unfold ShowsPost PlatformState.reach at this ⊢
      rw [hrepo, hviewers]
      exact this
    · rw [hrepo, hviewers]
      exact h.viewers
    · intro a b
      have := h.follows a b
      unfold ShowsFollow at this ⊢
      rw [hrepo]
      exact this
    · intro k r hk
      obtain ⟨n, hn, hle⟩ := h.engagements k r hk
      exact ⟨n, hn, le_trans hle hlog⟩
  later := hlog
  seqs := fun e he => absurd he List.not_mem_nil
  inOrder := List.Pairwise.nil

/-! ## A post that is published -/

theorem postRow_column (e : Events.Event Value) (post : Post) :
    ∀ c ∈ postColumns post, postRow e (postColumns post) c.1 = c.2 := by
  intro c hc
  simp only [postColumns, List.mem_cons, List.not_mem_nil, or_false] at hc
  rcases hc with rfl | rfl | rfl | rfl | rfl | rfl | rfl | rfl | rfl <;> rfl

omit [FloatColumn] in
theorem Sound.no_viewers {s : PlatformState} (h : Sound s) {postId : String}
    (hnew : s.repo.posts.get? postId = none) :
    postId ∉ s.repo.deleted ∧ s.viewers.getD postId [] = [] := by
  have hlive : postId ∉ s.repo.deleted := by
    intro hdel
    have := h.deleted postId hdel
    rw [hnew] at this
    cases this
  refine ⟨hlive, List.eq_nil_iff_forall_not_mem.mpr fun a ha => ?_⟩
  obtain ⟨e, he, hpost, -, -⟩ := (h.viewed postId hlive a).mp ha
  have := h.engaged e he
  rw [hpost, hnew] at this
  cases this

omit [FloatColumn] in
theorem sound_putPost {s s' : PlatformState} {post : Post} (h : Sound s)
    (hrepo : s'.repo = s.repo.putPost post) (hviewers : s'.viewers = s.viewers) : Sound s' := by
  have hget : ∀ postId, (s.repo.posts.get? postId).isSome → (s'.repo.posts.get? postId).isSome := by
    intro postId hsome
    rw [hrepo]
    show ((s.repo.posts.put post.postId post).get? postId).isSome
    rw [Dict.get?_put]
    split
    · rfl
    · exact hsome
  refine ⟨fun postId p hp => ?_, fun postId hdel => ?_, fun e he => ?_, ?_, ?_⟩
  · rw [hrepo] at hp
    change (s.repo.posts.put post.postId post).get? postId = some p at hp
    rw [Dict.get?_put] at hp
    split at hp
    · next heq =>
      cases hp
      exact heq.symm
    · exact h.ids postId p hp
  · rw [hrepo] at hdel
    exact hget postId (h.deleted postId hdel)
  · rw [hrepo] at he
    exact hget e.postId (h.engaged e he)
  · rw [hviewers]
    exact h.distinct
  · rw [hrepo, hviewers]
    exact h.viewed

theorem mirrors_published {s s' : PlatformState} {e : Events.Event Value} {post : Post}
    {db : Tables} (hs : Sound s) (hm : Mirrors s db)
    (hnew : s.repo.posts.get? post.postId = none) (hrepo : s'.repo = s.repo.putPost post)
    (hviewers : s'.viewers = s.viewers) (hlog : s.log.lastSeq ≤ s'.log.lastSeq) :
    Mirrors s' (db.setRow "posts" [post.postId] (some (postRow e (postColumns post)))) := by
  obtain ⟨hlive, hnone⟩ := hs.no_viewers hnew
  refine ⟨fun postId => ?_, fun k r hk => ?_, ?_, fun a b => ?_, ?_, fun k r hk => ?_⟩
  · unfold ShowsPost PlatformState.reach
    rw [hrepo, hviewers]
    show match ((s.repo.posts.put post.postId post).get? postId).map postColumns with
      | none => _
      | some columns => _
    rw [Dict.get?_put]
    by_cases heq : postId = post.postId
    · rw [if_pos heq, heq, Db.setRow_self]
      refine ⟨_, rfl, postRow_column e post, iff_of_true rfl hlive, fun _ => ?_⟩
      rw [hnone]
      rfl
    · have hne : [postId] ≠ [post.postId] := fun h => heq (List.cons.inj h).1
      rw [if_neg heq, Db.setRow_key_ne hne]
      exact hm.posts postId
  · by_cases heq : k = [post.postId]
    · exact ⟨_, heq⟩
    · rw [Db.setRow_key_ne heq] at hk
      exact hm.postKeys k r hk
  · rw [hrepo, hviewers, Db.setRow_table_ne (by decide)]
    exact hm.viewers
  · rw [Db.setRow_table_ne (by decide)]
    unfold ShowsFollow
    rw [hrepo]
    exact hm.follows a b
  · rw [Db.setRow_table_ne (by decide)]
    exact hm.followKeys
  · rw [Db.setRow_table_ne (by decide)] at hk
    obtain ⟨n, hn, hle⟩ := hm.engagements k r hk
    exact ⟨n, hn, le_trans hle hlog⟩

theorem carries_published {s s' : PlatformState} {e : Events.Event Value} {post : Post} {n : Nat}
    {ids : List String} {tick : Int}
    (hf : Follows (Platform.publishedDraft post n ids) tick s.log s'.log e)
    (hnew : s.repo.posts.get? post.postId = none) (hrepo : s'.repo = s.repo.putPost post)
    (hviewers : s'.viewers = s.viewers) : Carries s s' [e] := by
  refine carries_one hf (fun hs => sound_putPost hs hrepo hviewers) fun hs db hm => ?_
  have hk : e.kind = POST_PUBLISHED := hf.kind
  have hrow : db "posts" [post.postId] = none := by
    have := hm.posts post.postId
    unfold ShowsPost at this
    rw [hnew] at this
    exact this
  refine ⟨_, ?_, mirrors_published (e := e) hs hm hnew hrepo hviewers (by have := hf.last; omega)⟩
  rw [dispatch_posts (by rw [hk]; simp [postsProjection]) (by rw [hk]; decide)]
  refine Projection.apply_eq_ok.mpr ⟨_, published_statements hk hf.payload, ?_⟩
  simp only [execAll, Statement.exec, hrow, Option.elim_none, Option.bind_some]

/-! ## An engagement -/

/-- A post is as the tables show it: its columns, whatever its reach. -/
def SamePosts (r r' : PlatformRepo) : Prop := ∀ postId,
  (r'.posts.get? postId).map (fun p => (p.postId, postColumns p))
    = (r.posts.get? postId).map fun p => (p.postId, postColumns p)

theorem SamePosts.columns {r r' : PlatformRepo} (h : SamePosts r r') (postId : String) :
    (r'.posts.get? postId).map postColumns = (r.posts.get? postId).map postColumns := by
  have := congrArg (Option.map Prod.snd) (h postId)
  simpa [Option.map_map, Function.comp_def] using this

theorem SamePosts.isSome {r r' : PlatformRepo} (h : SamePosts r r') (postId : String) :
    (r'.posts.get? postId).isSome = (r.posts.get? postId).isSome := by
  have := congrArg Option.isSome (h postId)
  simpa using this

theorem SamePosts.ids {r r' : PlatformRepo} (h : SamePosts r r')
    (hids : ∀ postId post, r.posts.get? postId = some post → post.postId = postId) :
    ∀ postId post, r'.posts.get? postId = some post → post.postId = postId := by
  intro postId post hpost
  have hsame := h postId
  rw [hpost] at hsame
  cases hr : r.posts.get? postId with
  | none =>
    rw [hr] at hsame
    cases hsame
  | some p =>
    rw [hr] at hsame
    have hid : post.postId = p.postId := congrArg Prod.fst (Option.some.inj hsame)
    rw [hid]
    exact hids postId p hr

omit [FloatColumn] in
theorem mem_seenBy {seen : List String} {agentId a : String} :
    a ∈ PlatformState.seenBy seen agentId ↔ a ∈ seen ∨ a = agentId := by
  unfold PlatformState.seenBy
  by_cases h : agentId ∈ seen
  · rw [if_pos h]
    constructor
    · exact Or.inl
    · rintro (ha | rfl)
      · exact ha
      · exact h
  · rw [if_neg h]
    simp

omit [FloatColumn] in
theorem seenBy_nodup {seen : List String} {agentId : String} (h : seen.Nodup) :
    (PlatformState.seenBy seen agentId).Nodup := by
  unfold PlatformState.seenBy
  by_cases hmem : agentId ∈ seen
  · rw [if_pos hmem]
    exact h
  · rw [if_neg hmem]
    refine List.nodup_append.mpr ⟨h, List.nodup_singleton _, fun a ha b hb hab => ?_⟩
    rw [List.mem_singleton.mp hb] at hab
    exact hmem (hab ▸ ha)

/-- What an engagement that counts does to the platform. -/
structure Engages (row : Engagement) (s s' : PlatformState) : Prop where
  live : row.postId ∉ s.repo.deleted
  known : (s.repo.posts.get? row.postId).isSome
  posts : SamePosts s.repo s'.repo
  deleted : s'.repo.deleted = s.repo.deleted
  follows : s'.repo.follows = s.repo.follows
  engagements : s'.repo.engagements = s.repo.engagements ++ [row]
  viewers : ∀ postId, s'.viewers.getD postId [] =
    if row.type = .view ∧ postId = row.postId then
      PlatformState.seenBy (s.viewers.getD row.postId []) row.agentId
    else s.viewers.getD postId []

theorem Engages.sound {row : Engagement} {s s' : PlatformState} (h : Engages row s s')
    (hs : Sound s) : Sound s' := by
  refine ⟨h.posts.ids hs.ids, fun postId hdel => ?_, fun e he => ?_, fun postId => ?_,
    fun postId hlive a => ?_⟩
  · rw [h.posts.isSome]
    rw [h.deleted] at hdel
    exact hs.deleted postId hdel
  · rw [h.posts.isSome]
    rw [h.engagements] at he
    rcases List.mem_append.mp he with he | he
    · exact hs.engaged e he
    · rw [List.mem_singleton.mp he]
      exact h.known
  · rw [h.viewers]
    split
    · exact seenBy_nodup (hs.distinct _)
    · exact hs.distinct postId
  · rw [h.deleted] at hlive
    have hold := hs.viewed postId hlive a
    have hview : Viewed s'.repo postId a ↔
        Viewed s.repo postId a ∨ (row.type = .view ∧ postId = row.postId ∧ a = row.agentId) := by
      unfold Viewed
      rw [h.engagements]
      constructor
      · rintro ⟨e, he, hpost, hagent, htype⟩
        rcases List.mem_append.mp he with he | he
        · exact Or.inl ⟨e, he, hpost, hagent, htype⟩
        · obtain rfl := List.mem_singleton.mp he
          exact Or.inr ⟨htype, hpost.symm, hagent.symm⟩
      · rintro (⟨e, he, hrest⟩ | ⟨htype, hpost, hagent⟩)
        · exact ⟨e, List.mem_append_left _ he, hrest⟩
        · exact ⟨row, List.mem_append_right _ List.mem_cons_self, hpost.symm, hagent.symm, htype⟩
    rw [hview, h.viewers]
    by_cases hcase : row.type = .view ∧ postId = row.postId
    · rw [if_pos hcase, mem_seenBy, ← hcase.2, hold]
      constructor
      · rintro (hv | ha)
        · exact Or.inl hv
        · exact Or.inr ⟨hcase.1, rfl, ha⟩
      · rintro (hv | ⟨-, -, ha⟩)
        · exact Or.inl hv
        · exact Or.inr ha
    · rw [if_neg hcase, hold]
      constructor
      · exact Or.inl
      · rintro (hv | ⟨htype, hpost, -⟩)
        · exact hv
        · exact absurd ⟨htype, hpost⟩ hcase

theorem showsPost_congr {s s' : PlatformState} {postId : String} {row : Option (Row Value)}
    (hposts : (s'.repo.posts.get? postId).map postColumns
      = (s.repo.posts.get? postId).map postColumns)
    (hdeleted : postId ∈ s'.repo.deleted ↔ postId ∈ s.repo.deleted)
    (hviewers : s'.viewers.getD postId [] = s.viewers.getD postId [])
    (h : ShowsPost s postId row) : ShowsPost s' postId row := by
  unfold ShowsPost PlatformState.reach at h ⊢
  rw [hposts, hviewers]
  simp only [hdeleted]
  exact h

omit [FloatColumn] in
theorem showsFollow_congr {s s' : PlatformState} {a b : String} {row : Option (Row Value)}
    (hfollows : s'.repo.follows = s.repo.follows) (h : ShowsFollow s a b row) :
    ShowsFollow s' a b row := by
  unfold ShowsFollow at h ⊢
  rw [hfollows]
  exact h

theorem Mirrors.engagement_new {s s' : PlatformState} {db : Tables} (hm : Mirrors s db)
    {d : Draft} {tick : Int} {e : Events.Event Value} (hf : Follows d tick s.log s'.log e) :
    db "engagements" [toString e.seq] = none := by
  cases hrow : db "engagements" [toString e.seq] with
  | none => rfl
  | some r =>
    obtain ⟨n, hn, hle⟩ := hm.engagements _ _ hrow
    have hseq : e.seq = n := Int.repr_inj.mp (List.cons.inj hn).1
    have := hf.seq
    omega

/-- The tables with the row of an engagement. -/
def withEngagement (db : Tables) (e : Events.Event Value) (row : Engagement) : Tables :=
  db.setRow "engagements" [toString e.seq] (some (engagementRow row))

omit [FloatColumn] in
theorem withEngagement_ne (db : Tables) (e : Events.Event Value) (row : Engagement) {t : String}
    (h : t ≠ "engagements") : withEngagement db e row t = db t := Db.setRow_table_ne h _ _

omit [FloatColumn] in
theorem withEngagement_keys {db : Tables} {e : Events.Event Value} {row : Engagement} {n : Int}
    (h : ∀ k r, db "engagements" k = some r → ∃ m : Int, k = [toString m] ∧ m ≤ n)
    (hle : n ≤ e.seq) : ∀ k r, withEngagement db e row "engagements" k = some r →
      ∃ m : Int, k = [toString m] ∧ m ≤ e.seq := by
  intro k r hk
  unfold withEngagement at hk
  by_cases heq : k = [toString e.seq]
  · exact ⟨e.seq, heq, le_refl _⟩
  · rw [Db.setRow_key_ne heq] at hk
    obtain ⟨m, hm, hmn⟩ := h k r hk
    exact ⟨m, hm, le_trans hmn hle⟩

theorem mirrors_engaged {s s' : PlatformState} {db : Tables} {row : Engagement}
    {e : Events.Event Value} {d : Draft} {tick : Int} (h : Engages row s s') (hm : Mirrors s db)
    (hf : Follows d tick s.log s'.log e)
    (hviewers : ∀ postId, s'.viewers.getD postId [] = s.viewers.getD postId []) :
    Mirrors s' (withEngagement db e row) := by
  have hseq := hf.seq
  have hlast := hf.last
  refine ⟨fun postId => ?_, ?_, fun postId agentId hlive => ?_, fun a b => ?_, ?_, ?_⟩
  · rw [withEngagement_ne _ _ _ (by decide)]
    exact showsPost_congr (h.posts.columns postId) (by rw [h.deleted]) (hviewers postId)
      (hm.posts postId)
  · rw [withEngagement_ne _ _ _ (by decide)]
    exact hm.postKeys
  · rw [withEngagement_ne _ _ _ (by decide), hviewers]
    rw [h.deleted] at hlive
    exact hm.viewers postId agentId hlive
  · rw [withEngagement_ne _ _ _ (by decide)]
    exact showsFollow_congr h.follows (hm.follows a b)
  · rw [withEngagement_ne _ _ _ (by decide)]
    exact hm.followKeys
  · intro k r hk
    obtain ⟨n, hn, hle⟩ := withEngagement_keys hm.engagements (by omega) k r hk
    exact ⟨n, hn, by omega⟩

theorem oneMore_column (post : Post) (r : Row Value) :
    ∀ c ∈ postColumns post, oneMore r c.1 = r c.1 := by
  intro c hc
  refine Row.write_ne ?_ r
  intro d hd
  rw [List.mem_singleton.mp hd]
  simp only [postColumns, List.mem_cons, List.not_mem_nil, or_false] at hc
  rcases hc with rfl | rfl | rfl | rfl | rfl | rfl | rfl | rfl | rfl <;> simp

theorem mirrors_viewed {s s' : PlatformState} {db : Tables} {row : Engagement}
    {e : Events.Event Value} {d : Draft} {tick : Int} (h : Engages row s s')
    (hm : Mirrors s db) (hf : Follows d tick s.log s'.log e) (htype : row.type = .view)
    (hnew : row.agentId ∉ s.viewers.getD row.postId []) :
    Mirrors s' (((withEngagement db e row).setRow "post_viewers" [row.postId, row.agentId]
      (some (sqlRow []))).modifyRow "posts" [row.postId] oneMore) := by
  have hseq := hf.seq
  have hlast := hf.last
  unfold Db.modifyRow
  rw [Db.setRow_table_ne (by decide), withEngagement_ne _ _ _ (by decide)]
  refine ⟨fun postId => ?_, fun k r hk => ?_, fun postId agentId hlive => ?_, fun a b => ?_, ?_,
    fun k r hk => ?_⟩
  · by_cases heq : postId = row.postId
    · subst heq
      rw [Db.setRow_self]
      have hold := hm.posts row.postId
      unfold ShowsPost PlatformState.reach at hold ⊢
      rw [h.posts.columns, h.deleted, h.viewers, if_pos ⟨htype, rfl⟩]
      cases hpost : s.repo.posts.get? row.postId with
      | none =>
        have := h.known
        rw [hpost] at this
        cases this
      | some post =>
        rw [hpost] at hold
        obtain ⟨r, hr, hcols, hdel, hreach⟩ := hold
        refine ⟨oneMore r, by rw [hr]; rfl, fun c hc => ?_, ?_, fun hlive => ?_⟩
        · rw [oneMore_column post r c hc]
          exact hcols c hc
        · rw [← hdel]
          unfold oneMore
          rw [Row.write_ne (by simp)]
        · show plus (r "reach") 1 = _
          rw [hreach hlive]
          unfold PlatformState.seenBy
          rw [if_neg hnew, List.length_append]
          rfl
    · have hne : [postId] ≠ [row.postId] := fun hk => heq (List.cons.inj hk).1
      rw [Db.setRow_key_ne hne, Db.setRow_table_ne (by decide), withEngagement_ne _ _ _ (by decide)]
      refine showsPost_congr (h.posts.columns postId) (by rw [h.deleted]) ?_ (hm.posts postId)
      rw [h.viewers, if_neg fun hc => heq hc.2]
  · by_cases heq : k = [row.postId]
    · exact ⟨_, heq⟩
    · rw [Db.setRow_key_ne heq, Db.setRow_table_ne (by decide),
        withEngagement_ne _ _ _ (by decide)] at hk
      exact hm.postKeys k r hk
  · rw [Db.setRow_table_ne (by decide), h.viewers]
    rw [h.deleted] at hlive
    have hold := hm.viewers postId agentId hlive
    by_cases hkey : [postId, agentId] = [row.postId, row.agentId]
    · have hpost : postId = row.postId := (List.cons.inj hkey).1
      have hagent : agentId = row.agentId := (List.cons.inj (List.cons.inj hkey).2).1
      rw [hkey, Db.setRow_self, if_pos ⟨htype, hpost⟩, mem_seenBy]
      exact iff_of_true rfl (Or.inr hagent)
    · rw [Db.setRow_key_ne hkey, withEngagement_ne _ _ _ (by decide), hold]
      by_cases hpost : postId = row.postId
      · rw [if_pos ⟨htype, hpost⟩, mem_seenBy, hpost]
        constructor
        · exact Or.inl
        · rintro (ha | rfl)
          · exact ha
          · exact absurd (by rw [hpost]) hkey
      · rw [if_neg fun hc => hpost hc.2]
  · rw [Db.setRow_table_ne (by decide), Db.setRow_table_ne (by decide),
      withEngagement_ne _ _ _ (by decide)]
    exact showsFollow_congr h.follows (hm.follows a b)
  · rw [Db.setRow_table_ne (by decide), Db.setRow_table_ne (by decide),
      withEngagement_ne _ _ _ (by decide)]
    exact hm.followKeys
  · rw [Db.setRow_table_ne (by decide), Db.setRow_table_ne (by decide)] at hk
    obtain ⟨n, hn, hle⟩ := withEngagement_keys hm.engagements (by omega) k r hk
    exact ⟨n, hn, by omega⟩

theorem carries_engaged {s s' : PlatformState} {row : Engagement} {e : Events.Event Value}
    {authorId : String} (h : Sound s → Engages row s s')
    (hf : Follows (Platform.engagedDraft row authorId) row.tick s.log s'.log e) :
    Carries s s' [e] := by
  refine carries_one hf (fun hs => (h hs).sound hs) fun hs db hm => ?_
  have h := h hs
  have hk : e.kind = POST_ENGAGED := hf.kind
  have hnew := hm.engagement_new hf
  have happly : ∀ db', execAll db (.insert "engagements" [toString e.seq] (engagementRow row) ::
      if row.type = .view then
        [.insertThen "post_viewers" [row.postId, row.agentId] (sqlRow []) "posts" [row.postId]
          oneMore]
      else []) = some db' → dispatch platformViews e db = .ok db' := by
    intro db' hrun
    rw [dispatch_posts (by rw [hk]; simp [postsProjection]) (by rw [hk]; decide)]
    exact Projection.apply_eq_ok.mpr ⟨_, engaged_statements hk hf.tick hf.payload, hrun⟩
  by_cases htype : row.type = .view
  · rw [if_pos htype] at happly
    have hviewers := hm.viewers row.postId row.agentId h.live
    by_cases hseen : row.agentId ∈ s.viewers.getD row.postId []
    · -- the agent has seen the post before
      refine ⟨_, happly (withEngagement db e row) ?_, mirrors_engaged h hm hf fun postId => ?_⟩
      · have hthere := hviewers.mpr hseen
        obtain ⟨r, hr⟩ := Option.isSome_iff_exists.mp hthere
        rw [← withEngagement_ne db e row (by decide : "post_viewers" ≠ "engagements")] at hr
        unfold withEngagement at hr
        simp only [execAll, Statement.exec, hnew, Option.bind_some]
        rw [hr]
        rfl
      · rw [h.viewers]
        split
        · next hc =>
          unfold PlatformState.seenBy
          rw [if_pos hseen, hc.2]
        · rfl
    · refine ⟨_, happly _ ?_, mirrors_viewed h hm hf htype hseen⟩
      have hnone : db "post_viewers" [row.postId, row.agentId] = none := by
        cases hrow : db "post_viewers" [row.postId, row.agentId] with
        | none => rfl
        | some r => exact absurd (hviewers.mp (by rw [hrow]; rfl)) hseen
      rw [← withEngagement_ne db e row (by decide : "post_viewers" ≠ "engagements")] at hnone
      unfold withEngagement at hnone
      simp only [execAll, Statement.exec, hnew, Option.bind_some]
      rw [hnone]
      rfl
  · rw [if_neg htype] at happly
    refine ⟨_, happly (withEngagement db e row) ?_, mirrors_engaged h hm hf fun postId => ?_⟩
    · simp only [execAll, Statement.exec, hnew, Option.bind_some]
      rfl
    · rw [h.viewers, if_neg fun hc => htype hc.1]

/-! ## Follows and deletions -/

theorem carries_followed {s s' : PlatformState} {e : Events.Event Value} {a b : String}
    {context : Value} {tick started : Int}
    (hf : Follows (Platform.followDraft FOLLOW_CREATED a b ("context", context)) tick s.log
      s'.log e)
    (hrepo : s'.repo = { s.repo with follows := s.repo.follows.put (a, b) (started, none) })
    (hviewers : s'.viewers = s.viewers) : Carries s s' [e] := by
  refine carries_one hf (fun hs => ?_) fun hs db hm => ?_
  · refine ⟨?_, ?_, ?_, ?_, ?_⟩
    · rw [hrepo]
      exact hs.ids
    · rw [hrepo]
      exact hs.deleted
    · rw [hrepo]
      exact hs.engaged
    · rw [hviewers]
      exact hs.distinct
    · rw [hrepo, hviewers]
      exact hs.viewed
  · have hk : e.kind = FOLLOW_CREATED := hf.kind
    -- the row after the event does not end
    obtain ⟨r, hrun, hended⟩ : ∃ r, execAll db [.upsert "follows" [a, b] (followRow e context)
        fun r => (Row.copy ["started_tick", "context"] (followRow e context) r).write
          [("ended_tick", .none)]] = some (db.setRow "follows" [a, b] (some r)) ∧
        r "ended_tick" = .none := by
      simp only [execAll, Statement.exec, Option.bind_some]
      cases db "follows" [a, b] with
      | none => exact ⟨_, rfl, rfl⟩
      | some r => exact ⟨_, rfl, rfl⟩
    refine ⟨db.setRow "follows" [a, b] (some r), ?_, ?_⟩
    · rw [dispatch_follows (by rw [hk]; simp [postsProjection, POST_PUBLISHED, POST_DELETED,
        POST_ENGAGED, CLAIM_CHECKED, FOLLOW_CREATED]) (by rw [hk]; decide)]
      exact Projection.apply_eq_ok.mpr ⟨_, followed_statements hk hf.payload, hrun⟩
    · refine ⟨fun postId => ?_, ?_, ?_, fun c d => ?_, fun k r' hrow => ?_, fun k r' hrow => ?_⟩
      · rw [Db.setRow_table_ne (by decide)]
        exact showsPost_congr (by rw [hrepo]) (by rw [hrepo]) (by rw [hviewers]) (hm.posts postId)
      · rw [Db.setRow_table_ne (by decide)]
        exact hm.postKeys
      · rw [Db.setRow_table_ne (by decide), hrepo, hviewers]
        exact hm.viewers
      · unfold ShowsFollow
        rw [hrepo]
        show match (s.repo.follows.put (a, b) (started, none)).get? (c, d) with
          | none => _
          | some _ => _
        rw [Dict.get?_put]
        by_cases hcd : (c, d) = (a, b)
        · cases hcd
          rw [if_pos rfl, Db.setRow_self]
          exact ⟨r, rfl, hended⟩
        · have hne : [c, d] ≠ [a, b] := by
            intro h
            obtain ⟨h₁, h₂⟩ := List.cons.inj h
            exact hcd (Prod.ext h₁ (List.cons.inj h₂).1)
          rw [if_neg hcd, Db.setRow_key_ne hne]
          exact hm.follows c d
      · by_cases heq : k = [a, b]
        · exact ⟨a, b, heq⟩
        · rw [Db.setRow_key_ne heq] at hrow
          exact hm.followKeys k r' hrow
      · rw [Db.setRow_table_ne (by decide)] at hrow
        obtain ⟨n, hn, hle⟩ := hm.engagements k r' hrow
        have := hf.last
        exact ⟨n, hn, by omega⟩

theorem carries_unfollowed {s s' : PlatformState} {e : Events.Event Value} {a b : String}
    {reason : Value} {tick started : Int}
    (hf : Follows (Platform.followDraft FOLLOW_ENDED a b ("reason", reason)) tick s.log s'.log e)
    (hthere : s.repo.follows.get? (a, b) = some (started, none))
    (hrepo : s'.repo = { s.repo with follows := s.repo.follows.put (a, b) (started, some tick) })
    (hviewers : s'.viewers = s.viewers) : Carries s s' [e] := by
  refine carries_one hf (fun hs => ?_) fun hs db hm => ?_
  · refine ⟨?_, ?_, ?_, ?_, ?_⟩
    · rw [hrepo]
      exact hs.ids
    · rw [hrepo]
      exact hs.deleted
    · rw [hrepo]
      exact hs.engaged
    · rw [hviewers]
      exact hs.distinct
    · rw [hrepo, hviewers]
      exact hs.viewed
  · have hk : e.kind = FOLLOW_ENDED := hf.kind
    refine ⟨db, ?_, ?_⟩
    · rw [dispatch_follows (by rw [hk]; simp [postsProjection, POST_PUBLISHED, POST_DELETED,
        POST_ENGAGED, CLAIM_CHECKED, FOLLOW_ENDED]) (by rw [hk]; decide)]
      exact Projection.apply_eq_ok.mpr ⟨_, unfollowed_statements hk, rfl⟩
    · refine ⟨fun postId => ?_, hm.postKeys, ?_, fun c d => ?_, hm.followKeys, fun k r hrow => ?_⟩
      · exact showsPost_congr (by rw [hrepo]) (by rw [hrepo]) (by rw [hviewers]) (hm.posts postId)
      · rw [hrepo, hviewers]
        exact hm.viewers
      · have hold := hm.follows c d
        unfold ShowsFollow at hold ⊢
        rw [hrepo]
        show match (s.repo.follows.put (a, b) (started, some tick)).get? (c, d) with
          | none => _
          | some _ => _
        rw [Dict.get?_put]
        by_cases hcd : (c, d) = (a, b)
        · cases hcd
          rw [if_pos rfl]
          rw [hthere] at hold
          exact hold
        · rw [if_neg hcd]
          exact hold
      · obtain ⟨n, hn, hle⟩ := hm.engagements k r hrow
        have := hf.last
        exact ⟨n, hn, by omega⟩

theorem deleted_column (post : Post) (tick : Value) (r : Row Value) :
    ∀ c ∈ postColumns post, r.write [("deleted_tick", tick)] c.1 = r c.1 := by
  intro c hc
  refine Row.write_ne ?_ r
  intro d hd
  rw [List.mem_singleton.mp hd]
  simp only [postColumns, List.mem_cons, List.not_mem_nil, or_false] at hc
  rcases hc with rfl | rfl | rfl | rfl | rfl | rfl | rfl | rfl | rfl <;> simp

theorem carries_deleted {s : PlatformState} {e : Events.Event Value} {gone : String} {post : Post}
    {reason : String} {tick : Int} {log : EventLog Value}
    (hf : Follows (Platform.deletedDraft gone post reason) tick s.log log e)
    (hpost : s.repo.posts.get? gone = some post) :
    Carries s ((s.drop gone).withLog log) [e] := by
  refine carries_one hf (fun hs => ?_) fun hs db hm => ?_
  · refine ⟨hs.ids, fun postId hdel => ?_, hs.engaged, fun postId => ?_, fun postId hlive a => ?_⟩
    · rcases List.mem_cons.mp hdel with rfl | hdel
      · show (s.repo.posts.get? _).isSome
        rw [hpost]
        rfl
      · exact hs.deleted postId hdel
    · show (((s.viewers.erase gone).get? postId).getD []).Nodup
      rw [Dict.get?_erase]
      split
      · exact List.nodup_nil
      · exact hs.distinct postId
    · obtain ⟨hne, hlive⟩ := not_or.mp fun h => hlive (List.mem_cons.mpr h)
      show a ∈ ((s.viewers.erase gone).get? postId).getD [] ↔ _
      rw [Dict.get?_erase, if_neg hne]
      exact hs.viewed postId hlive a
  · have hk : e.kind = POST_DELETED := hf.kind
    have hlast := hf.last
    refine ⟨db.modifyRow "posts" [gone] fun r =>
      r.write [("deleted_tick", .int e.tick)], ?_, ?_⟩
    · rw [dispatch_posts (by rw [hk]; simp [postsProjection]) (by rw [hk]; decide)]
      exact Projection.apply_eq_ok.mpr ⟨_, deleted_statements hk hf.payload, rfl⟩
    · unfold Db.modifyRow
      refine ⟨fun postId => ?_, fun k r hrow => ?_, fun postId agentId hlive => ?_, fun a b => ?_,
        ?_, fun k r hrow => ?_⟩
      · have hold := hm.posts postId
        by_cases heq : postId = gone
        · subst heq
          rw [Db.setRow_self]
          unfold ShowsPost at hold ⊢
          show match (s.repo.posts.get? postId).map postColumns with
            | none => _
            | some columns => _
          rw [hpost] at hold ⊢
          obtain ⟨r, hr, hcols, -, -⟩ := hold
          refine ⟨_, by rw [hr]; rfl, fun c hc => ?_, ?_, fun hlive => ?_⟩
          · exact (deleted_column post _ r c hc).trans (hcols c hc)
          · refine iff_of_false (fun h => by cases h) fun h => h List.mem_cons_self
          · exact absurd List.mem_cons_self hlive
        · have hne : [postId] ≠ [gone] := fun hk => heq (List.cons.inj hk).1
          rw [Db.setRow_key_ne hne]
          refine showsPost_congr (s := s) rfl ?_ ?_ hold
          · show postId ∈ gone :: s.repo.deleted ↔ _
            rw [List.mem_cons]
            exact or_iff_right heq
          · show ((s.viewers.erase gone).get? postId).getD [] = _
            rw [Dict.get?_erase, if_neg heq]
            rfl
      · by_cases heq : k = [gone]
        · exact ⟨_, heq⟩
        · rw [Db.setRow_key_ne heq] at hrow
          exact hm.postKeys k r hrow
      · obtain ⟨hne, hlive⟩ := not_or.mp fun h => hlive (List.mem_cons.mpr h)
        rw [Db.setRow_table_ne (by decide)]
        show _ ↔ agentId ∈ ((s.viewers.erase gone).get? postId).getD []
        rw [Dict.get?_erase, if_neg hne]
        exact hm.viewers postId agentId hlive
      · rw [Db.setRow_table_ne (by decide)]
        exact hm.follows a b
      · rw [Db.setRow_table_ne (by decide)]
        exact hm.followKeys
      · rw [Db.setRow_table_ne (by decide)] at hrow
        obtain ⟨n, hn, hle⟩ := hm.engagements k r hrow
        refine ⟨n, hn, ?_⟩
        show n ≤ log.lastSeq
        change log.lastSeq = s.log.lastSeq + 1 at hlast
        omega

end Floats

end Polis.Society.Media
