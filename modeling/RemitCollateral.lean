import RemitCollateral.Host.Machine
import RemitCollateral.Arithmetic.Proportion
import RemitCollateral.Arithmetic.Pool
import RemitCollateral.GuarantorVault.Solvency
import RemitCollateral.GuarantorVault.Postings
import RemitCollateral.GuarantorVault.Isolation
import RemitCollateral.GuarantorVault.Audit
import RemitCollateral.GuarantorVault.CashBook
import RemitCollateral.LoanLedger.Pages
import RemitCollateral.Protocol.Coverage
import RemitCollateral.Protocol.Default
import RemitCollateral.Protocol.Conservation
import RemitCollateral.Protocol.Batching
import RemitCollateral.Protocol.Pricing
import RemitCollateral.Protocol.Repayability
import RemitCollateral.Protocol.KeepAlive
import RemitCollateral.Protocol.Provenance
import RemitCollateral.Protocol.Delinquency
import RemitCollateral.Protocol.Acceptance
import RemitCollateral.Protocol.Rollout
import RemitCollateral.Protocol.PayingAhead
import RemitCollateral.Protocol.Credentials
