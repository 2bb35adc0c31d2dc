/-
  Polis.Society.Projections — the eight projections of the society read
  models (`society/projections.py`).

  Each projection is the statements it executes for an event.  A row is kept
  under its primary key without the run; floats are JSON values.
-/
import Polis.Society.Filing
import Polis.Society.Kinds
import Polis.Society.Media
import Polis.Society.Propositions
import Polis.Store.Projection

namespace Polis.Society

open Lib Lib.Sql Polis.Events Polis.Store

/-! ## Reading an event -/

/-- Floats as JSON values, and back. -/
class FloatColumn extends FloatValue where
  toRat : Value → Option ℚ
  toRat_ofRat : ∀ q, toRat (ofRat q) = some q

/-- The rows of a payload. -/
def payloadRows (e : Events.Event Value) : List (String × Value) :=
  match e.payload with
  | .dict rows => rows
  | _ => []

/-- `row[key]`. -/
def memberOf (rows : List (String × Value)) (key : String) : Except PyError Value :=
  match rows.lookup key with
  | some v => .ok v
  | none => .error (.key key)

/-- `payload[key]`. -/
def field (e : Events.Event Value) (key : String) : Except PyError Value :=
  memberOf (payloadRows e) key

/-- `payload.get(key)`. -/
def field? (e : Events.Event Value) (key : String) : Option Value := (payloadRows e).lookup key

/-- Columns with the name of the field they hold. -/
def columns (e : Events.Event Value) : List String → Except PyError (List (String × Value))
  | [] => .ok []
  | name :: names => do
    let v ← field e name
    let cs ← columns e names
    pure ((name, v) :: cs)

/-- A text, as a key column takes it. -/
def textValue : Value → Except PyError String
  | .str s => .ok s
  | _ => .error (.value "text expected")

/-- A field that is a text. -/
def textField (e : Events.Event Value) (key : String) : Except PyError String := do
  textValue (← field e key)

/-- A field that is an integer. -/
def intField (e : Events.Event Value) (key : String) : Except PyError Int := do
  match ← field e key with
  | .int n => pure n
  | _ => throw (.value "integer expected")

/-- The items of a list. -/
def itemsOf : Value → Except PyError (List Value)
  | .list xs => .ok xs
  | _ => .error (.value "list expected")

/-- The rows of a mapping. -/
def rowsOf : Value → Except PyError (List (String × Value))
  | .dict rows => .ok rows
  | _ => .error (.value "mapping expected")

/-- `for x in xs`, collecting what the body returns. -/
def eachRow {α β : Type} (f : α → Except PyError β) : List α → Except PyError (List β)
  | [] => .ok []
  | x :: xs => do
    let y ← f x
    let ys ← eachRow f xs
    pure (y :: ys)

/-- A row of a read model; the columns that are not given are NULL. -/
def sqlRow (cs : List (String × Value)) : Row Value := Row.ofList Value.none cs

/-- `column + n`. -/
def plus (v : Value) (n : Int) : Value :=
  match v with
  | .int m => .int (m + n)
  | v => v

/-- `GREATEST(column, n)`. -/
def greatest (v : Value) (n : Int) : Value :=
  match v with
  | .int m => .int (max m n)
  | v => v

section Floats

variable [FloatColumn]

/-- `float(v)`. -/
def floatValue (v : Value) : Except PyError ℚ :=
  match FloatColumn.toRat v with
  | some q => .ok q
  | none => .error (.value "number expected")

/-- A field that is a number. -/
def floatField (e : Events.Event Value) (key : String) : Except PyError ℚ := do
  floatValue (← field e key)

/-- `GREATEST(lo, LEAST(hi, column + d))`. -/
def clipAdd (lo hi d : ℚ) (v : Value) : Value :=
  match FloatColumn.toRat v with
  | some q => FloatValue.ofRat (max lo (min hi (q + d)))
  | none => v

/-- `(COALESCE(column, 0) * n + score) / (n + 1)`. -/
def averaged (v n : Value) (score : ℚ) : Value :=
  match n with
  | .int n => FloatValue.ofRat (((FloatColumn.toRat v).getD 0 * n + score) / (n + 1))
  | n => n

end Floats

/-! ## Posts -/

section Floats

variable [FloatColumn]

/-- The row of a post. -/
def postRow (e : Events.Event Value) (cs : List (String × Value)) : Row Value :=
  sqlRow (cs ++ [("tick", .int e.tick), ("reach", .int 0), ("truthfulness_n", .int 0)])

/-- `PostsProjection.apply`. -/
def postsStatements (e : Events.Event Value) : Except PyError (List (Statement Value)) :=
  if e.kind = POST_PUBLISHED then do
    let postId ← textField e "post_id"
    let cs ← columns e ["author_id", "text", "topic", "stance_proposition", "stance_value",
      "in_reply_to", "repost_of", "root_post_id", "claims"]
    let row := postRow e cs
    pure [.upsert "posts" [postId] row fun r =>
      (Row.copy ["text", "topic", "stance_proposition", "stance_value", "in_reply_to",
        "repost_of", "root_post_id", "claims"] row r).write [("deleted_tick", .none)]]
  else if e.kind = POST_DELETED then do
    let postId ← textField e "post_id"
    pure [.update "posts" [postId] fun r => r.write [("deleted_tick", .int e.tick)]]
  else if e.kind = POST_ENGAGED then do
    let postId ← textField e "post_id"
    let agentId ← textField e "agent_id"
    let type ← field e "type"
    let engagement : Statement Value := .insert "engagements" [toString e.seq]
      (sqlRow [("post_id", .str postId), ("agent_id", .str agentId), ("tick", .int e.tick),
        ("type", type)])
    match type with
    | .str "view" =>
      pure [engagement, .insertThen "post_viewers" [postId, agentId] (sqlRow []) "posts" [postId]
        fun r => r.write [("reach", plus (r "reach") 1)]]
    | _ => pure [engagement]
  else if e.kind = CLAIM_CHECKED then do
    match ← field e "subject_kind", ← field e "score" with
    | .str "post", .none => pure []
    | .str "post", score => do
      let score ← floatValue score
      let postId ← textField e "subject_id"
      pure [.update "posts" [postId] fun r => r.write
        [("truthfulness", averaged (r "truthfulness") (r "truthfulness_n") score),
         ("truthfulness_n", plus (r "truthfulness_n") 1)]]
    | _, _ => pure []
  else pure []

def postsProjection : Projection :=
  { name := "posts_projection"
    tables := ["posts", "engagements", "post_viewers"]
    handles := [POST_PUBLISHED, POST_DELETED, POST_ENGAGED, CLAIM_CHECKED]
    statements := postsStatements
    truncated := ["post_viewers", "engagements", "posts"] }

end Floats

/-! ## Follows -/

/-- `FollowsProjection.apply`; its second branch tests for a kind that the
projection does not handle. -/
def followsStatements (e : Events.Event Value) : Except PyError (List (Statement Value)) :=
  if e.kind = FOLLOW_CREATED then do
    let followerId ← textField e "follower_id"
    let followeeId ← textField e "followee_id"
    let context ← field e "context"
    let row := sqlRow [("started_tick", .int e.tick), ("context", context)]
    pure [.upsert "follows" [followerId, followeeId] row fun r =>
      (Row.copy ["started_tick", "context"] row r).write [("ended_tick", .none)]]
  else if e.kind = OUTLET_REVENUE_BOOKED then do
    let followerId ← textField e "follower_id"
    let followeeId ← textField e "followee_id"
    pure [.update "follows" [followerId, followeeId] fun r =>
      r.write [("ended_tick", .int e.tick)]]
  else pure []

def followsProjection : Projection :=
  { name := "follows_projection"
    tables := ["follows"]
    handles := [FOLLOW_CREATED, FOLLOW_ENDED]
    statements := followsStatements
    truncated := ["follows"] }

/-! ## Relationships -/

section Floats

variable [FloatColumn]

/-- The row of a tie that begins. -/
def tieRow (e : Events.Event Value) (strength valence trust : Value) : Row Value :=
  sqlRow [("strength", strength), ("valence", valence), ("trust", trust),
    ("formed_tick", .int e.tick), ("last_interaction_tick", .int e.tick)]

/-- The columns a tie that begins again takes over. -/
def tieAgain (row r : Row Value) : Row Value :=
  (Row.copy ["strength", "valence", "trust", "formed_tick", "last_interaction_tick"] row r).write
    [("ended_tick", .none)]

/-- A list that is not empty. -/
def truthyList : Value → Bool
  | .list (_ :: _) => true
  | _ => false

/-- `RelationshipsProjection.apply`. -/
def relationshipsStatements (e : Events.Event Value) : Except PyError (List (Statement Value)) :=
  if e.kind = TIE_FORMED then do
    let key ← eachRow (textField e) ["a_id", "b_id", "type"]
    let row := tieRow e (← field e "strength") (← field e "valence") (← field e "trust")
    pure [.upsert "relationships" key row (tieAgain row)]
  else if e.kind = TIE_UPDATED then do
    let dStrength ← floatField e "d_strength"
    let dValence ← floatField e "d_valence"
    let dTrust ← floatField e "d_trust"
    let drivers ← field e "drivers"
    let key ← eachRow (textField e) ["a_id", "b_id", "type"]
    pure [.update "relationships" key fun r => r.write
      [("strength", clipAdd 0 1 dStrength (r "strength")),
       ("valence", clipAdd (-1) 1 dValence (r "valence")),
       ("trust", clipAdd 0 1 dTrust (r "trust")),
       ("last_interaction_tick",
         if truthyList drivers then .int e.tick else r "last_interaction_tick")]]
  else if e.kind = TIE_ENDED then do
    let strength ← field e "final_strength"
    let key ← eachRow (textField e) ["a_id", "b_id", "type"]
    pure [.update "relationships" key fun r =>
      r.write [("ended_tick", .int e.tick), ("strength", strength)]]
  else do
    let source ← eachRow (textField e) ["a_id", "b_id", "from_type"]
    let key ← eachRow (textField e) ["a_id", "b_id", "to_type"]
    pure [.update "relationships" source fun r => r.write [("ended_tick", .int e.tick)],
      .upsertFrom "relationships" source key
        (fun r => tieRow e (r "strength") (r "valence") (r "trust")) tieAgain]

def relationshipsProjection : Projection :=
  { name := "relationships_projection"
    tables := ["relationships"]
    handles := [TIE_FORMED, TIE_UPDATED, TIE_ENDED, TIE_TYPE_CHANGED]
    statements := relationshipsStatements
    truncated := ["relationships"] }

/-! ## News -/

/-- `OutletsProjection.apply`. -/
def outletsStatements (e : Events.Event Value) : Except PyError (List (Statement Value)) :=
  if e.kind = OUTLET_FOUNDED then do
    let outletId ← textField e "outlet_id"
    let cs ← columns e ["firm_id", "slant", "rigour"]
    let row := sqlRow (("name", (field? e "name").getD (.str outletId)) :: cs
      ++ [("reach", .int 0), ("founded_tick", .int e.tick)])
    pure [.upsert "outlets" [outletId] row fun r =>
      (Row.copy ["firm_id", "slant", "rigour"] row r).write [("closed_tick", .none)]]
  else if e.kind = OUTLET_CLOSED then do
    let reach ← field e "final_reach"
    let outletId ← textField e "outlet_id"
    pure [.update "outlets" [outletId] fun r =>
      r.write [("closed_tick", .int e.tick), ("reach", reach)]]
  else do
    let impressions ← intField e "impressions"
    let outletId ← textField e "outlet_id"
    pure [.update "outlets" [outletId] fun r =>
      r.write [("reach", greatest (r "reach") impressions)]]

def outletsProjection : Projection :=
  { name := "outlets_projection"
    tables := ["outlets"]
    handles := [OUTLET_FOUNDED, OUTLET_REVENUE_BOOKED, OUTLET_CLOSED]
    statements := outletsStatements
    truncated := ["outlets"] }

/-- `ArticlesProjection.apply`. -/
def articlesStatements (e : Events.Event Value) : Except PyError (List (Statement Value)) :=
  if e.kind = ARTICLE_PUBLISHED then do
    let articleId ← textField e "article_id"
    let cs ← columns e ["outlet_id", "reporter_id", "headline", "body", "source_event_seqs",
      "claims", "slant_applied"]
    let row := sqlRow (cs ++ [("tick", .int e.tick), ("accuracy_n", .int 0), ("reach", .int 0),
      ("stance_proposition", (field? e "stance_proposition").getD .none),
      ("stance_value", (field? e "stance_value").getD .none)])
    pure [.upsert "articles" [articleId] row fun r =>
      (Row.copy ["headline", "body", "source_event_seqs", "claims"] row r).write
        [("retracted_tick", .none)]]
  else if e.kind = ARTICLE_DISTRIBUTED then do
    let reach ← intField e "reach"
    let articleId ← textField e "article_id"
    pure [.update "articles" [articleId] fun r => r.write [("reach", greatest (r "reach") reach)]]
  else if e.kind = ARTICLE_RETRACTED then do
    match ← field e "article_id" with
    | .none => pure []
    | id => do
      let articleId ← textValue id
      pure [.update "articles" [articleId] fun r => r.write [("retracted_tick", .int e.tick)]]
  else if e.kind = CLAIM_CHECKED then do
    match ← field e "subject_kind", ← field e "score" with
    | .str "article", .none => pure []
    | .str "article", score => do
      let score ← floatValue score
      let articleId ← textField e "subject_id"
      pure [.update "articles" [articleId] fun r => r.write
        [("accuracy", averaged (r "accuracy") (r "accuracy_n") score),
         ("accuracy_n", plus (r "accuracy_n") 1)]]
    | _, _ => pure []
  else pure []

def articlesProjection : Projection :=
  { name := "articles_projection"
    tables := ["articles"]
    handles := [ARTICLE_PUBLISHED, ARTICLE_DISTRIBUTED, ARTICLE_RETRACTED, CLAIM_CHECKED]
    statements := articlesStatements
    truncated := ["articles"] }

/-! ## Beliefs -/

/-- `_upsert`. -/
def beliefUpsert (e : Events.Event Value) (agentId proposition : String) (value confidence : ℚ)
    (source : Value) (sourceRef : Value) : Statement Value :=
  let row := sqlRow [("value", FloatValue.ofRat value),
    ("confidence", FloatValue.ofRat confidence), ("updated_tick", .int e.tick),
    ("source", source), ("source_ref", sourceRef), ("source_seq", .int e.seq)]
  .upsert "beliefs" [agentId, proposition] row
    (Row.copy ["value", "confidence", "updated_tick", "source", "source_ref", "source_seq"] row)

/-- A row of inherited priors. -/
def priorStatement (e : Events.Event Value) (agentId : String) (source sourceRef : Value)
    (prior : Value) : Except PyError (Statement Value) := do
  let rows ← rowsOf prior
  let proposition ← textValue (← memberOf rows "proposition")
  if "fact.".toList.isPrefixOf proposition.toList ∨ propositionSpec proposition = none then
    throw (.value ("invalid inherited proposition: " ++ proposition))
  else do
    let value ← floatValue (← memberOf rows "value")
    let confidence ← floatValue (← memberOf rows "confidence")
    pure (beliefUpsert e agentId proposition value confidence source sourceRef)

/-- A row of a drift; an absent belief starts from its defaults. -/
def driftStatement (e : Events.Event Value) (agentId : String) (channel update : Value) :
    Except PyError (Statement Value) := do
  let rows ← rowsOf update
  let proposition ← textValue (← memberOf rows "proposition")
  match propositionSpec proposition with
  | none => throw (.value ("unknown proposition in belief drift: " ++ proposition))
  | some spec => do
    let dValue ← floatValue (← memberOf rows "d_value")
    let dConfidence ← floatValue (← memberOf rows "d_confidence")
    let row := sqlRow
      [("value", FloatValue.ofRat (max spec.lo (min spec.hi (spec.defaultValue + dValue)))),
       ("confidence", FloatValue.ofRat (max 0 (min 1 (spec.defaultConfidence + dConfidence)))),
       ("updated_tick", .int e.tick), ("source", channel), ("source_seq", .int e.seq)]
    pure (.upsert "beliefs" [agentId, proposition] row fun r =>
      (Row.copy ["updated_tick", "source", "source_ref", "source_seq"] row r).write
        [("value", clipAdd spec.lo spec.hi dValue (r "value")),
         ("confidence", clipAdd 0 1 dConfidence (r "confidence"))])

/-- `BeliefsProjection.apply`. -/
def beliefsStatements (e : Events.Event Value) : Except PyError (List (Statement Value)) :=
  if e.kind = BELIEF_UPDATED then do
    let agentId ← textField e "agent_id"
    let proposition ← textField e "proposition"
    let value ← floatField e "new_value"
    let confidence ← floatField e "new_confidence"
    let channel ← field e "channel"
    let sourceRef ← field e "source_ref"
    pure [beliefUpsert e agentId proposition value confidence channel sourceRef]
  else if e.kind = BELIEF_PRIORS_SET then do
    let priors ← itemsOf (← field e "propositions")
    let agentId ← textField e "agent_id"
    let source ← field e "source"
    eachRow (priorStatement e agentId (.str "inherited") source) priors
  else if e.kind = MIGRATION_IN then do
    let priors ← itemsOf (← field e "belief_priors")
    let agentId ← textField e "agent_id"
    let cohortId ← textField e "cohort_id"
    eachRow (priorStatement e agentId (.str "migration") (.str ("migration:" ++ cohortId))) priors
  else do
    let updates ← itemsOf (← field e "updates")
    let agentId ← textField e "agent_id"
    let channel ← field e "channel"
    eachRow (driftStatement e agentId channel) updates

def beliefsProjection : Projection :=
  { name := "beliefs_projection"
    tables := ["beliefs"]
    handles := [BELIEF_UPDATED, BELIEF_DRIFT_APPLIED, BELIEF_PRIORS_SET, MIGRATION_IN]
    statements := beliefsStatements
    truncated := ["beliefs"] }

/-! ## Polity -/

/-- A change of a platform: a proposition and its new stance. -/
def platformChange (change : Value) : Except PyError (String × Value) := do
  let rows ← rowsOf change
  let proposition ← textValue (← memberOf rows "proposition")
  let stance ← floatValue (← memberOf rows "new")
  pure (proposition, FloatValue.ofRat stance)

/-- `platform || changes`. -/
def mergeInto (changes : List (String × Value)) : Value → Value
  | .dict rows => .dict (changes.foldl (fun rows c => Dict.putEntry c.1 c.2 rows) rows)
  | v => v

/-- The keys of a resolved election that go to its diagnostics. -/
def diagnosticsOf (e : Events.Event Value) : Value :=
  .dict (["rounds", "n_deliberate", "n_reflex", "fitted_omega", "holdout_accuracy",
    "first_election_prior"].filterMap fun key => (field? e key).map fun v => (key, v))

/-- The votes of a candidacy. -/
def votesStatement (row : String × Value) : Statement Value :=
  .update "candidacies" [row.1] fun r => r.write [("votes", row.2)]

/-- `repealed_policy_id or policy_id`. -/
def repealedId (e : Events.Event Value) : Except PyError String :=
  match field? e "repealed_policy_id" with
  | none => textField e "policy_id"
  | some .none => textField e "policy_id"
  | some (.str "") => textField e "policy_id"
  | some id => textValue id

/-- `PolityProjection.apply`. -/
def polityStatements (e : Events.Event Value) : Except PyError (List (Statement Value)) :=
  if e.kind = PARTY_FOUNDED then do
    let partyId ← textField e "party_id"
    let cs ← columns e ["name", "platform"]
    let row := sqlRow (cs ++ [("founded_tick", .int e.tick)])
    pure [.upsert "parties" [partyId] row fun r =>
      (Row.copy ["name", "platform", "founded_tick"] row r).write [("dissolved_tick", .none)]]
  else if e.kind = PARTY_PLATFORM_CHANGED then do
    let changes ← itemsOf (← field e "changes")
    let changes ← eachRow platformChange changes
    let partyId ← textField e "party_id"
    pure [.update "parties" [partyId] fun r =>
      r.write [("platform", mergeInto changes (r "platform"))]]
  else if e.kind = PARTY_DISSOLVED then do
    let partyId ← textField e "party_id"
    pure [.update "parties" [partyId] fun r => r.write [("dissolved_tick", .int e.tick)]]
  else if e.kind = ELECTION_CALLED then do
    let electionId ← textField e "election_id"
    let cs ← columns e ["office", "seats", "called_tick", "voting_tick", "campaign_ends_tick",
      "electorate_size", "method"]
    let row := sqlRow (cs ++ [("winner_ids", .list []), ("diagnostics", .dict [])])
    pure [.upsert "elections" [electionId] row fun r =>
      (Row.copy ["called_tick", "voting_tick", "campaign_ends_tick", "electorate_size"] row r).write
        [("turnout", .none), ("winner_id", .none), ("winner_ids", .list []), ("margin", .none),
         ("diagnostics", .dict [])]]
  else if e.kind = ELECTION_RESOLVED then do
    let winners ← itemsOf (← field e "winner_ids")
    let cs ← columns e ["turnout", "margin"]
    let electionId ← textField e "election_id"
    let tallies ← rowsOf (← field e "tallies")
    pure (.update "elections" [electionId] (fun r => r.write
        (cs ++ [("winner_id", winners.headD .none), ("winner_ids", .list winners),
          ("diagnostics", diagnosticsOf e)]))
      :: (tallies.insertionSort fun a b => a.1 ≤ b.1).map votesStatement)
  else if e.kind = CANDIDACY_ANNOUNCED then do
    let candidacyId ← textField e "candidacy_id"
    let cs ← columns e ["election_id", "agent_id", "party_id", "platform"]
    let row := sqlRow (cs ++ [("spend_cents", .int 0), ("votes", .int 0)])
    pure [.upsert "candidacies" [candidacyId] row (Row.copy ["party_id", "platform"] row)]
  else if e.kind = CAMPAIGN_SPEND then do
    let amount ← intField e "amount_cents"
    let candidacyId ← textField e "candidacy_id"
    pure [.update "candidacies" [candidacyId] fun r =>
      r.write [("spend_cents", plus (r "spend_cents") amount)]]
  else if e.kind = VOTE_CAST ∨ e.kind = ABSTAINED then do
    let electionId ← textField e "election_id"
    let voterId ← textValue (((field? e "voter_id").orElse fun _ => field? e "agent_id").getD .none)
    let cs ← columns e ["origin", "utility"]
    let row := sqlRow (cs ++ [("candidacy_id", (field? e "candidacy_id").getD .none),
      ("tick", .int e.tick), ("ranking", (field? e "ranking").getD (.list [])),
      ("approvals", (field? e "approvals").getD (.list []))])
    pure [.upsert "votes" [electionId, voterId] row
      (Row.copy ["candidacy_id", "tick", "ranking", "approvals", "origin", "utility"] row)]
  else if e.kind = POLICY_ENACTED then do
    let policyId ← textField e "policy_id"
    let cs ← columns e ["parameter", "old_value", "new_value", "effective_tick", "enacted_by",
      "vote_margin", "proposal_seq"]
    let row := sqlRow (cs ++ [("enacted_tick", .int e.tick)])
    pure [.upsert "policies" [policyId] row (Row.copy ["old_value", "new_value",
      "effective_tick", "enacted_by", "vote_margin", "proposal_seq"] row)]
  else if e.kind = POLICY_REPEALED then do
    let policyId ← repealedId e
    pure [.update "policies" [policyId] fun r => r.write [("repealed_tick", .int e.tick)]]
  else pure []

def polityProjection : Projection :=
  { name := "polity_projection"
    tables := ["parties", "elections", "candidacies", "votes", "policies"]
    handles := [PARTY_FOUNDED, PARTY_PLATFORM_CHANGED, PARTY_DISSOLVED, ELECTION_CALLED,
      ELECTION_RESOLVED, CANDIDACY_ANNOUNCED, CAMPAIGN_SPEND, VOTE_CAST, ABSTAINED,
      POLICY_ENACTED, POLICY_REPEALED]
    statements := polityStatements
    truncated := ["votes", "candidacies", "elections", "parties", "policies"] }

end Floats

/-! ## Law -/

/-- The agent a case is against, as a key. -/
def defendantKey (r : Row Value) : Option (List String) :=
  match r "defendant_id" with
  | .str agentId => some [agentId]
  | _ => none

/-- A conviction, on the agents. -/
def convictStatement (caseId : String) : Statement Value :=
  .updateVia "agents" "court_cases" [caseId] defendantKey fun r =>
    r.write [("criminal_record", plus (r "criminal_record") 1)]

/-- `LawProjection.apply`. -/
def lawStatements (e : Events.Event Value) : Except PyError (List (Statement Value)) :=
  if e.kind = CRIME_COMMITTED then do
    let crimeId ← textField e "crime_id"
    let cs ← columns e ["type", "perpetrator_id", "victim_id", "amount_cents", "place_id",
      "district_id", "source_action_id", "concealment"]
    let row := sqlRow (cs ++ [("tick", .int e.tick),
      ("path", (field? e "path").getD (.str "explicit")), ("detected", .bool false)])
    pure [.upsert "crimes" [crimeId] row
      (Row.copy ["amount_cents", "place_id", "district_id", "concealment", "path"] row)]
  else if e.kind = CRIME_DETECTED then do
    let crimeId ← textField e "crime_id"
    pure [.update "crimes" [crimeId] fun r =>
      r.write [("detected", .bool true), ("detected_tick", .int e.tick)]]
  else if e.kind = CRIME_REPORTED then do
    let reporterId ← field e "reporter_id"
    let crimeId ← textField e "crime_id"
    pure [.update "crimes" [crimeId] fun r => r.write [("reported_by", reporterId)]]
  else if e.kind = SUIT_FILED then do
    let caseId ← textField e "case_id"
    let cs ← columns e ["type", "plaintiff_id", "defendant_id", "crime_id", "cause_of_action",
      "claim_cents"]
    let row := sqlRow (cs ++ [("filed_tick", .int e.tick),
      ("evidence_event_seqs", (field? e "evidence_event_seqs").getD (.list [])),
      ("damages_cents", .int 0), ("restitution_cents", .int 0),
      ("admitted_event_seqs", .list []), ("status", .str "open")])
    pure [.upsert "court_cases" [caseId] row fun r =>
      (Row.copy ["plaintiff_id", "defendant_id", "crime_id", "cause_of_action", "claim_cents",
        "evidence_event_seqs"] row r).write [("status", .str "open"), ("resolved_tick", .none)]]
  else if e.kind = COUNSEL_RETAINED then do
    let side ← field e "side"
    let column := match side with
      | .str "defence" => "defence_counsel_id"
      | _ => "plaintiff_counsel_id"
    let counselId ← field e "counsel_id"
    let caseId ← textField e "case_id"
    pure [.update "court_cases" [caseId] fun r => r.write [(column, counselId)]]
  else if e.kind = EVIDENCE_ADMITTED then do
    let admitted ← itemsOf (← field e "admitted_seqs")
    let caseId ← textField e "case_id"
    pure [.update "court_cases" [caseId] fun r =>
      r.write [("admitted_event_seqs", .list admitted)]]
  else if e.kind = CASE_SETTLED then do
    let caseId ← textField e "case_id"
    pure [.update "court_cases" [caseId] fun r =>
      r.write [("status", .str "settled"), ("resolved_tick", .int e.tick)]]
  else if e.kind = JUDGMENT_RENDERED then do
    let judgeId ← field e "judge_id"
    let verdict ← field e "verdict"
    let fine ← field e "fine_cents"
    let cs ← columns e ["sentence_ticks", "damages_cents", "restitution_cents"]
    let caseId ← textField e "case_id"
    let judged : Statement Value := .update "court_cases" [caseId] fun r => r.write
      ([("status", .str "resolved"), ("resolved_tick", .int e.tick), ("judge_id", judgeId),
        ("verdict", verdict), ("penalty_cents", fine)] ++ cs)
    match verdict with
    | .str "guilty" => pure [judged, convictStatement caseId]
    | _ => pure [judged]
  else pure []

def lawProjection : Projection :=
  { name := "law_projection"
    tables := ["crimes", "court_cases"]
    handles := [CRIME_COMMITTED, CRIME_DETECTED, CRIME_REPORTED, SUIT_FILED, COUNSEL_RETAINED,
      EVIDENCE_ADMITTED, CASE_SETTLED, JUDGMENT_RENDERED]
    statements := lawStatements
    truncated := ["court_cases", "crimes"] }

/-! ## The registry -/

/-- `PROJECTION_REGISTRY`, in the order of registration. -/
def PROJECTION_REGISTRY [FloatColumn] : List Projection :=
  [postsProjection, followsProjection, relationshipsProjection, outletsProjection,
   articlesProjection, beliefsProjection, polityProjection, lawProjection]

/-! ## Closed runs -/

/-- Floats as a numerator over a denominator. -/
abbrev ratioColumn : FloatColumn :=
  { ratioValue with
    toRat := fun v =>
      match v with
      | .list [.int num, .int den] => some (num / den)
      | _ => none
    toRat_ofRat := fun q => congrArg some (Rat.num_div_den q) }

end Polis.Society
