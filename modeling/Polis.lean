import Polis.Gateway.Replay
import Polis.Society.Judgments
import Polis.Society.Rebuild
import Polis.Economy.Bankruptcy.Waterfall
import Polis.Gateway.Revocation
import Polis.Llm.Replay
import Polis.Economy.Exchange.Crossing
import Polis.Economy.Exchange.ShortCap
import Polis.Economy.Ventures.Dividends
import Polis.Economy.Ventures.Tenders
import Polis.Economy.Credit.Schedule
import Polis.Economy.Flush
import Polis.Economy.Exchange.IndexLevel
import Polis.Economy.Exchange.Indications
import Polis.Economy.Central.Funding
import Polis.Economy.Exchange.Allotment
import Polis.Economy.Demand
import Polis.Economy.Credit.Underwriting
import Polis.Economy.Labour.Wages
import Polis.Society.Seats
import Polis.Events.Citations
import Polis.Economy.PriceWindow
import Polis.Gateway.Lifecycle
import Polis.Society.PartyRuns
import Polis.Society.Prison
import Polis.Society.Debts
import Polis.Society.DepositRuns
import Polis.Society.Solvency
import Polis.Society.Forecast
import Polis.Society.Reflections
import Polis.Agents.Insights
import Polis.Llm.Quota
import Polis.Society.NewsWeeks
import Polis.Kernel.Restore
import Polis.Economy.Apportion
import Polis.Economy.Labour.Tax
import Polis.Gateway.Stream
import Polis.Gateway.Ladder
import Polis.Gateway.SingleUse
import Polis.Llm.Repairs
import Polis.Economy.Shuffle
import Polis.Events.Causal
import Polis.Kernel.Tick
import Polis.Agents.Actions
