/-
  Polis.Society.Platform — the social platform
  (`society/media/platform.py`).

  Posts, follows and engagements are kept in a repository; the viewers of a
  post are kept beside it.  Every change of the repository is followed by the
  event that tells of it.
-/
import Polis.Lib.Dict
import Polis.Society.Kinds
import Polis.Society.Staging

namespace Polis.Society.Media

open Lib Lib.Effect Polis.Events

/-! ## Rows -/

/-- `Post`. -/
structure Post where
  postId : String
  authorId : String
  tick : Int
  text : String
  topic : Option String
  stanceProposition : Option String
  stanceValue : Option ℚ
  inReplyTo : Option String
  repostOf : Option String
  rootPostId : String
  claims : List Value
  reach : Nat

/-- `EngagementType`. -/
inductive EngagementType where
  | view | like | repost | comment | report
  deriving Repr, DecidableEq

def EngagementType.text : EngagementType → String
  | view => "view"
  | like => "like"
  | repost => "repost"
  | comment => "comment"
  | report => "report"

/-- `Engagement`; its fields are the key it is added under. -/
structure Engagement where
  postId : String
  agentId : String
  tick : Int
  type : EngagementType
  deriving Repr, DecidableEq

/-! ## The repository -/

/-- `MemoryPlatformRepository`. -/
structure PlatformRepo where
  posts : Dict String Post := ∅
  deleted : List String := []
  follows : Dict (String × String) (Int × Option Int) := ∅
  engagements : List Engagement := []

namespace PlatformRepo

def putPost (r : PlatformRepo) (post : Post) : PlatformRepo :=
  { r with posts := r.posts.put post.postId post }

/-- `post`. -/
def post? (r : PlatformRepo) (postId : String) : Option Post :=
  if postId ∈ r.deleted then none else r.posts.get? postId

def deletePost (r : PlatformRepo) (postId : String) : PlatformRepo :=
  { r with deleted := postId :: r.deleted }

/-- A follow that has not ended. -/
def following (r : PlatformRepo) (key : String × String) : Bool :=
  match r.follows.get? key with
  | some (_, none) => true
  | _ => false

/-- `put_follow`; nothing where the follow is there. -/
def putFollow (r : PlatformRepo) (key : String × String) (tick : Int) : Option PlatformRepo :=
  if r.following key then none else some { r with follows := r.follows.put key (tick, none) }

/-- `end_follow`; nothing where there is no follow to end. -/
def endFollow (r : PlatformRepo) (key : String × String) (tick : Int) : Option PlatformRepo :=
  match r.follows.get? key with
  | some (started, none) => some { r with follows := r.follows.put key (started, some tick) }
  | _ => none

/-- `followers`. -/
def followers (r : PlatformRepo) (agentId : String) : List String :=
  (r.follows.entries.filter fun e => e.1.2 = agentId ∧ e.2.2 = none).map fun e => e.1.1

/-- `add_engagement`; nothing where the engagement is there. -/
def addEngagement (r : PlatformRepo) (e : Engagement) : Option PlatformRepo :=
  if e ∈ r.engagements then none else some { r with engagements := r.engagements ++ [e] }

end PlatformRepo

/-! ## The platform -/

/-- What a `Platform` and its cascades keep, with the log they stage in. -/
structure PlatformState where
  log : EventLog Value
  repo : PlatformRepo := {}
  postOrdinal : Dict (Int × String) Nat := ∅
  viewers : Dict String (List String) := ∅
  impressions : Dict String Nat := ∅
  parents : Dict String (Option String) := ∅
  roots : Dict String String := ∅

abbrev PlatformM := EStateM Fault PlatformState

namespace PlatformState

def withLog (s : PlatformState) (log : EventLog Value) : PlatformState := { s with log }

def withRepo (s : PlatformState) (repo : PlatformRepo) : PlatformState := { s with repo }

/-- `reach`. -/
def reach (s : PlatformState) (postId : String) : Nat := (s.viewers.getD postId []).length

/-- The id of the next post of an author. -/
def nextPostId [Uuid5] (s : PlatformState) (authorId : String) (tick : Int) : String :=
  Kernel.detId "po" "society.post"
    [authorId, toString tick, toString (s.postOrdinal.getD (tick, authorId) 0)]

/-- The id is counted up. -/
def countPost (s : PlatformState) (authorId : String) (tick : Int) : PlatformState :=
  { s with postOrdinal :=
      s.postOrdinal.put (tick, authorId) (s.postOrdinal.getD (tick, authorId) 0 + 1) }

/-- `CascadeTracker.depth_for`: up the parents, no longer than there are rows. -/
def depthUp (s : PlatformState) : Nat → Option String → Nat
  | 0, _ => 0
  | _ + 1, none => 0
  | n + 1, some postId => 1 + s.depthUp n ((s.parents.get? postId).getD none)

def depthFor (s : PlatformState) (postId : String) : Nat :=
  s.depthUp s.parents.entries.length ((s.parents.get? postId).getD none)

/-- `CascadeTracker.note`: a reply starts no cascade. -/
def note (s : PlatformState) (post : Post) : PlatformState :=
  if post.inReplyTo.isSome ∧ post.repostOf = none then s
  else
    let parent := post.repostOf.map fun p => if s.roots.contains p then p else post.rootPostId
    { s with
      parents := s.parents.put post.postId parent
      roots := s.roots.put post.postId post.rootPostId }

/-- The viewers with one more. -/
def seenBy (seen : List String) (agentId : String) : List String :=
  if agentId ∈ seen then seen else seen ++ [agentId]

/-- A view is counted, and the reach of the post written where it changed. -/
def view (s : PlatformState) (postId : String) (post : Post) (agentId : String) :
    PlatformState :=
  let seen := seenBy (s.viewers.getD postId []) agentId
  { s with
    viewers := s.viewers.put postId seen
    impressions := s.impressions.put postId (s.impressions.getD postId 0 + 1)
    repo := if post.reach = seen.length then s.repo
      else s.repo.putPost { post with reach := seen.length } }

/-- A post that is deleted loses its viewers. -/
def drop (s : PlatformState) (postId : String) : PlatformState :=
  { s with
    repo := s.repo.deletePost postId
    viewers := s.viewers.erase postId
    impressions := s.impressions.erase postId }

end PlatformState

/-- `PostParams`, the claims in JSON mode. -/
structure PostParams where
  text : String
  topic : Option String := none
  stanceProposition : Option String := none
  stanceValue : Option ℚ := none
  claims : List Value := []
  inReplyTo : Option String := none

/-- `RepostParams`. -/
structure RepostParams where
  postId : Option String := none
  text : Option String := none
  repostOf : Option String := none
  comment : Option String := none

/-- A text that is there and not empty. -/
def truthyText : Option String → Option String
  | some "" => none
  | t => t

namespace RepostParams

/-- `str(repost_of or post_id)`. -/
def sourceId (p : RepostParams) : String :=
  ((truthyText p.repostOf).orElse fun _ => p.postId).getD "None"

/-- The text of the repost: the comment, or the text. -/
def body (p : RepostParams) : String := (p.comment.orElse fun _ => p.text).getD ""

end RepostParams

/-- A `Platform`: the journal it stages in and the clock of it. -/
structure Platform where
  journal : Journal

namespace Platform

variable (P : Platform) [Uuid5] [FloatValue]

/-- The event of a post. -/
def publishedDraft (post : Post) (followerCount : Nat) (subjectIds : List String) : Draft :=
  { kind := POST_PUBLISHED
    payload := [("post_id", .str post.postId), ("author_id", .str post.authorId),
      ("text", .str post.text), ("topic", .ofStr? post.topic),
      ("stance_proposition", .ofStr? post.stanceProposition),
      ("stance_value", (post.stanceValue.map FloatValue.ofRat).getD .none),
      ("in_reply_to", .ofStr? post.inReplyTo), ("repost_of", .ofStr? post.repostOf),
      ("root_post_id", .str post.rootPostId), ("claims", .list post.claims),
      ("follower_count_at_post", .int followerCount)]
    actorId := some post.authorId
    subjectIds }

/-- The event of a repost. -/
def repostedDraft (post source : Post) (originalAuthorId : String) (depth : Nat) : Draft :=
  { kind := REPOST_MADE
    payload := [("post_id", .str post.postId), ("repost_of", .str source.postId),
      ("root_post_id", .str post.rootPostId), ("author_id", .str post.authorId),
      ("original_author_id", .str originalAuthorId), ("cascade_depth", .int depth),
      ("comment", .ofStr? (truthyText (some post.text)))]
    actorId := some post.authorId
    subjectIds := [post.authorId, source.authorId] }

/-- The event of an engagement. -/
def engagedDraft (row : Engagement) (authorId : String) : Draft :=
  { kind := POST_ENGAGED
    payload := [("post_id", .str row.postId), ("agent_id", .str row.agentId),
      ("type", .str row.type.text), ("author_id", .str authorId)]
    actorId := some row.agentId
    subjectIds := [row.agentId, authorId] }

/-- The event of a follow, or of its end. -/
def followDraft (kind : Int) (followerId followeeId : String) (why : String × Value) : Draft :=
  { kind
    payload := [("follower_id", .str followerId), ("followee_id", .str followeeId), why]
    actorId := some followerId
    subjectIds := [followerId, followeeId] }

/-- The event of a deletion. -/
def deletedDraft (postId : String) (post : Post) (reason : String) : Draft :=
  { kind := POST_DELETED
    payload := [("post_id", .str postId), ("author_id", .str post.authorId),
      ("reason", .str reason)]
    actorId := some post.authorId
    subjectIds := [post.authorId] }

/-- The post that `publish` makes. -/
def newPost (s : PlatformState) (authorId : String) (p : PostParams) (tick : Int) : Post :=
  let postId := s.nextPostId authorId tick
  let parent := (truthyText p.inReplyTo).bind s.repo.post?
  { postId, authorId, tick, text := p.text, topic := p.topic,
    stanceProposition := p.stanceProposition, stanceValue := p.stanceValue,
    inReplyTo := p.inReplyTo, repostOf := none,
    rootPostId := (parent.map Post.rootPostId).getD postId, claims := p.claims, reach := 0 }

/-- The post that `repost` makes of its source. -/
def repostOf (s : PlatformState) (authorId : String) (p : RepostParams) (source : Post)
    (tick : Int) : Post :=
  { postId := s.nextPostId authorId tick, authorId, tick, text := p.body, topic := source.topic,
    stanceProposition := source.stanceProposition, stanceValue := source.stanceValue,
    inReplyTo := none, repostOf := some source.postId, rootPostId := source.rootPostId,
    claims := [], reach := 0 }

variable [CanonicalJson Value] [Sha256] [PayloadSchemas Value]

/-- `_emit`. -/
def emit (d : Draft) (tick : Int) : PlatformM (Events.Event Value) :=
  zoom PlatformState.log PlatformState.withLog (Society.emit P.journal d tick)

/-- `publish`. -/
def publish (authorId : String) (p : PostParams) (tick : Int) :
    PlatformM (Post × List (Events.Event Value)) := do
  let s ← get
  let post := newPost s authorId p tick
  modify fun s => (s.countPost authorId tick).withRepo (s.repo.putPost post)
  let event ← P.emit
    (publishedDraft post (s.repo.followers authorId).length [authorId]) tick
  modify fun s => s.note post
  pure (post, [event])

/-- `engage`. -/
def engage (agentId postId : String) (type : EngagementType) (tick : Int) :
    PlatformM (List (Events.Event Value)) := do
  let s ← get
  match s.repo.post? postId with
  | none => pure []
  | some post =>
    let row : Engagement := { postId, agentId, tick, type }
    match s.repo.addEngagement row with
    | none => pure []
    | some repo => do
      modify fun s => s.withRepo repo
      runIf (type = .view) (modify fun s => s.view postId post agentId)
      let event ← P.emit (engagedDraft row post.authorId) tick
      pure [event]

/-- `repost`. -/
def repost (authorId : String) (p : RepostParams) (tick : Int) :
    PlatformM (Post × List (Events.Event Value)) := do
  let s ← get
  match s.repo.post? p.sourceId with
  | none => throw (.py (.key ("unknown post: " ++ p.sourceId)))
  | some source => do
    let post := repostOf s authorId p source tick
    modify fun s => (s.countPost authorId tick).withRepo (s.repo.putPost post)
    let published ← P.emit (publishedDraft post (s.repo.followers authorId).length
      [authorId, source.authorId]) tick
    let root := ((s.repo.putPost post).post? post.rootPostId).getD source
    let reposted ← P.emit
      (repostedDraft post source root.authorId (s.depthFor source.postId + 1)) tick
    let engaged ← P.engage authorId source.postId .repost tick
    modify fun s => s.note post
    pure (post, published :: reposted :: engaged)

/-- `follow`. -/
def follow (followerId followeeId context : String) (tick : Int) :
    PlatformM (List (Events.Event Value)) := do
  let s ← get
  if followerId = followeeId then pure []
  else
    match s.repo.putFollow (followerId, followeeId) tick with
    | none => pure []
    | some repo => do
      modify fun s => s.withRepo repo
      let event ← P.emit
        (followDraft FOLLOW_CREATED followerId followeeId ("context", .str context)) tick
      pure [event]

/-- `unfollow`. -/
def unfollow (followerId followeeId reason : String) (tick : Int) :
    PlatformM (List (Events.Event Value)) := do
  let s ← get
  match s.repo.endFollow (followerId, followeeId) tick with
  | none => pure []
  | some repo => do
    modify fun s => s.withRepo repo
    let event ← P.emit
      (followDraft FOLLOW_ENDED followerId followeeId ("reason", .str reason)) tick
    pure [event]

/-- `delete`. -/
def delete (postId reason : String) (tick : Int) : PlatformM (List (Events.Event Value)) := do
  let s ← get
  match s.repo.post? postId with
  | none => throw (.py (.key ("unknown post: " ++ postId)))
  | some post => do
    modify fun s => s.drop postId
    let event ← P.emit (deletedDraft postId post reason) tick
    pure [event]

end Platform

end Polis.Society.Media
