/-
  Polis.Society.Kinds — the event kinds of the society read models
  (`events/kinds.py`).
-/
import Mathlib.Init

namespace Polis.Society

/-! ## Ties and beliefs -/

def TIE_FORMED : Int := 10040
def TIE_UPDATED : Int := 10041
def TIE_ENDED : Int := 10042
def TIE_TYPE_CHANGED : Int := 10043
def BELIEF_UPDATED : Int := 10060
def BELIEF_DRIFT_APPLIED : Int := 10061
def BELIEF_UPDATE_REJECTED : Int := 10062
def BELIEF_PRIORS_SET : Int := 10063
def BELIEF_PRIORS_INHERITED : Int := 15030
def MIGRATION_IN : Int := 15040

/-! ## What an agent lives through -/

def FIRED : Int := 5011
def PAYROLL_SHORTFALL : Int := 5032
def BANKRUPTCY_FILED : Int := 9030

/-! ## Platform and news -/

def POST_PUBLISHED : Int := 11010
def POST_DELETED : Int := 11011
def REPOST_MADE : Int := 11012
def POST_ENGAGED : Int := 11020
def ARTICLE_PUBLISHED : Int := 11030
def ARTICLE_DISTRIBUTED : Int := 11032
def ARTICLE_RETRACTED : Int := 11033
def CLAIM_CHECKED : Int := 11034
def FOLLOW_CREATED : Int := 11040
def FOLLOW_ENDED : Int := 11041
def OUTLET_FOUNDED : Int := 11050
def OUTLET_CLOSED : Int := 11052

/-! ## Polity and law -/

def PARTY_PLATFORM_CHANGED : Int := 12004
def PARTY_DISSOLVED : Int := 12005
def CRIME_COMMITTED : Int := 13010
def CRIME_DETECTED : Int := 13011
def CRIME_REPORTED : Int := 13012
def COUNSEL_RETAINED : Int := 13021
def EVIDENCE_ADMITTED : Int := 13022
def CASE_SETTLED : Int := 13030
def JUDGMENT_RENDERED : Int := 13040

end Polis.Society
