import VeltrixEye.Execution.AuthorizationLog
import VeltrixEye.Mutations.Reservations
import VeltrixEye.Mutations.Overlap
import VeltrixEye.Billing.Narrowing
import VeltrixEye.Billing.PaymentFacts
import VeltrixEye.Notifications.Attempts
import VeltrixEye.Execution.CleanRuns
import VeltrixEye.Execution.StopMeansStop
import VeltrixEye.Execution.IntakeTwins
import VeltrixEye.MarketData.Histories
import VeltrixEye.Risk.Windows
import VeltrixEye.Billing.CustomerRuns
import VeltrixEye.Billing.PlansOnSale
import VeltrixEye.Setups.LifecycleRuns
import VeltrixEye.Strategies.VersionRuns
import VeltrixEye.Execution.Mt5
import VeltrixEye.Scanner.Independence
import VeltrixEye.Scanner.Privacy
import VeltrixEye.Backtest.ServiceRuns
import VeltrixEye.Backtest.PaperAgreement
import VeltrixEye.Backtest.TradeLog
import VeltrixEye.Mutations.Receipts
import VeltrixEye.Execution.EvictedAuthorizations
import VeltrixEye.Risk.Tightening
import VeltrixEye.Strategies.Sufficiency
import VeltrixEye.Scoring.Reward
import VeltrixEye.Scoring.Monotone
import VeltrixEye.Billing.DecisionKeys
import VeltrixEye.Billing.Payloads
import VeltrixEye.Billing.FxChanges
import VeltrixEye.Notifications.SecretRuns
import VeltrixEye.Notifications.AddressFilter
import VeltrixEye.Billing.AllowListSpelling
import VeltrixEye.Risk.Roundings
import VeltrixEye.Backtest.Metrics
import VeltrixEye.Strategies.Zones
