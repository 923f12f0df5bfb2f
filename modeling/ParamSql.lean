import ParamSql.Json.Reader
import ParamSql.Proofs.Assembly
import ParamSql.Script
import ParamSql.Session.Recorder
import ParamSql.Session.Rehearsal
import ParamSql.Proofs.Sign
import ParamSql.Proofs.NormalForm
import ParamSql.Proofs.Validity
import ParamSql.Proofs.Template
import ParamSql.Proofs.Alignment
import ParamSql.Proofs.Presence
import ParamSql.Proofs.Containment
import ParamSql.Proofs.Decoder
import ParamSql.Proofs.Decodability
import ParamSql.Proofs.Independence
import ParamSql.Proofs.Exchange
import ParamSql.Proofs.Ledger
import ParamSql.Proofs.Store
import ParamSql.Proofs.Application
import ParamSql.Proofs.Resumption
import ParamSql.Proofs.Discipline
import ParamSql.Proofs.Observation
import ParamSql.Proofs.Condition
import ParamSql.Proofs.Grammar
import ParamSql.Proofs.Meaning
import ParamSql.Proofs.Sharing
import ParamSql.Proofs.Contention
import ParamSql.Proofs.Execution
import ParamSql.Proofs.Transmission
import ParamSql.Proofs.Homonyms
import ParamSql.Proofs.Spelling
import ParamSql.Proofs.Exposure
import ParamSql.Proofs.Refusal
import ParamSql.Proofs.Ending
import ParamSql.Proofs.Rewording
import ParamSql.Proofs.Inertia
import ParamSql.Proofs.Narrowing
import ParamSql.Proofs.Insertion
import ParamSql.Proofs.Precedence
import ParamSql.Proofs.Truncation
import ParamSql.Proofs.Renumbering
