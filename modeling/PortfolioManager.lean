import PortfolioManager.Library.Checked
import PortfolioManager.Library.Hex
import PortfolioManager.Library.Sha256
import PortfolioManager.Library.UuidText
import PortfolioManager.Library.Numeral
import PortfolioManager.Library.Transcript
import PortfolioManager.Library.BoundedBuffer
import PortfolioManager.Library.Runs
import PortfolioManager.Library.Requirement
import PortfolioManager.Library.Canonical
import PortfolioManager.Library.Selection
import PortfolioManager.Library.SingleUse
import PortfolioManager.Library.Mvcc
import PortfolioManager.Library.MvccSerial
import PortfolioManager.Library.Sql
import PortfolioManager.Library.Relational
import PortfolioManager.Library.SealedBox
import PortfolioManager.Library.DepthFirst
import PortfolioManager.Library.CivilDays
import PortfolioManager.Python.Text
import PortfolioManager.Python.Url
import PortfolioManager.Python.Numbers
import PortfolioManager.Python.Uuid
import PortfolioManager.Python.Httpx
import PortfolioManager.Domain.Identifiers
import PortfolioManager.Domain.IdentifierText
import PortfolioManager.Domain.Temporal
import PortfolioManager.Domain.LocalTime
import PortfolioManager.Domain.Numeric
import PortfolioManager.Domain.NumericText
import PortfolioManager.Domain.Activities
import PortfolioManager.Domain.ActivityShape
import PortfolioManager.Domain.ActivityEffect
import PortfolioManager.Domain.Quality
import PortfolioManager.Domain.Observations
import PortfolioManager.Domain.Ownership
import PortfolioManager.Domain.Tenancy
import PortfolioManager.Domain.Normalisation
import PortfolioManager.Application.Connectors
import PortfolioManager.Connectors.Zerodha
import PortfolioManager.Connectors.ZerodhaSurvey
import PortfolioManager.Connectors.ZerodhaReport
import PortfolioManager.Connectors.ZerodhaAccounting
import PortfolioManager.Connectors.ZerodhaBatch
import PortfolioManager.Connectors.ZerodhaEvidence
import PortfolioManager.Connectors.ZerodhaHttp
import PortfolioManager.Connectors.ZerodhaHttpFailures
import PortfolioManager.Connectors.ZerodhaAuth
import PortfolioManager.Connectors.ZerodhaAuthRuns
import PortfolioManager.Connectors.ZerodhaAuthSafety
import PortfolioManager.Connectors.ZerodhaAuthProgress
import PortfolioManager.Connectors.ZerodhaAuthEffects
import PortfolioManager.Connectors.ZerodhaLoginUrl
import PortfolioManager.Connectors.ZerodhaToken
import PortfolioManager.Connectors.ZerodhaHttpLimits
import PortfolioManager.Connectors.ZerodhaTokenFailures
import PortfolioManager.Connectors.ZerodhaExpiry
import PortfolioManager.Connectors.ZerodhaFetches
import PortfolioManager.Connectors.ZerodhaWire
import PortfolioManager.Connectors.ZerodhaWireRuns
import PortfolioManager.Connectors.ZerodhaLogin
import PortfolioManager.Connectors.ZerodhaWireEvidence
import PortfolioManager.Connectors.ZerodhaWireSecrecy
import PortfolioManager.Connectors.ZerodhaClocks
import PortfolioManager.Persistence.Envelope
import PortfolioManager.Persistence.KeyFile
import PortfolioManager.Persistence.Migration
import PortfolioManager.Persistence.Schema
import PortfolioManager.Persistence.SchemaRuns
import PortfolioManager.Persistence.NonceStore
import PortfolioManager.Persistence.NonceRuns
import PortfolioManager.Persistence.NonceIsolation
import PortfolioManager.Persistence.NonceSingleUse
import PortfolioManager.Persistence.NonceConflict
import PortfolioManager.Persistence.NonceSession
import PortfolioManager.Persistence.NonceRows
import PortfolioManager.Persistence.DatedRecords
import PortfolioManager.Scripts.ArchitectureRules
import PortfolioManager.Scripts.ArchitectureImports
import PortfolioManager.Scripts.ArchitectureMatching
import PortfolioManager.Scripts.ArchitectureCoverage
import PortfolioManager.Scripts.ArchitectureCycles
import PortfolioManager.Scripts.ArchitectureOwnership
import PortfolioManager.Scripts.ArchitectureMain
