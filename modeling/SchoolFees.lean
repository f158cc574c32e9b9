import SchoolFees.Config.Variables
import SchoolFees.Document.Rates
import SchoolFees.Document.Reports
import SchoolFees.Office
import SchoolFees.Proofs.Commission.AppliedRate
import SchoolFees.Proofs.Commission.ValidSheets
import SchoolFees.Proofs.Pricing.CatalogMap
import SchoolFees.Proofs.Settlement.Cancel
import SchoolFees.Proofs.Commission.Respelling
import SchoolFees.Proofs.Sheets.Interleaving
import SchoolFees.Proofs.Document.Catalogs
import SchoolFees.Proofs.Commission.Batches
import SchoolFees.Proofs.Settlement.Coherence
import SchoolFees.Proofs.Settlement.Exchange
import SchoolFees.Proofs.Settlement.Alerting
import SchoolFees.Proofs.Commission.Scales
import SchoolFees.Proofs.Scales
import SchoolFees.Proofs.Pricing.Staircase
import SchoolFees.Proofs.Pricing.StrictTables
import SchoolFees.Proofs.Commission.Chains
import SchoolFees.Proofs.Calendar.DayBefore
import SchoolFees.Proofs.Settlement.Unsettled
import SchoolFees.Proofs.Settlement.Duplicates
import SchoolFees.Proofs.Decimal.Rounding
import SchoolFees.Proofs.Pricing.PercentFees
import SchoolFees.Proofs.Commission.Gst
import SchoolFees.Proofs.Pricing.FirstFault
import SchoolFees.Proofs.Numerals
import SchoolFees.Proofs.Config.Loading
