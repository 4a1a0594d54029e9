import Dabdub.Soroban
import Dabdub.PaymentRequest.Types
import Dabdub.PaymentRequest.Contract
import Dabdub.PaymentRequest.Host
import Dabdub.PaymentRequest.Spec
import Dabdub.PaymentRequest.Step
import Dabdub.PaymentRequest.Invariant
import Dabdub.PaymentRequest.Ledger
import Dabdub.PaymentRequest.Lifecycle
import Dabdub.PaymentRequest.Authority
import Dabdub.PaymentRequest.Commute
import Dabdub.PaymentRequest.EventLog
import Dabdub.PaymentRequest.ConfigLog
import Dabdub.PaymentRequest.Drain
import Dabdub.PaymentRequest.Pause
import Dabdub.PaymentRequest.Capacity
