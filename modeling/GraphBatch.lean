import GraphBatch.Client.Factories
import GraphBatch.Client.Subscription
import GraphBatch.Document.Drafter
import GraphBatch.Error.Held
import GraphBatch.Error.Outline
import GraphBatch.Postgres.Cell
import GraphBatch.Scripted.Desk
import GraphBatch.Scripted.Peer
import GraphBatch.Params.Decode
import GraphBatch.Proofs.Drafting
import GraphBatch.Proofs.Composition
import GraphBatch.Proofs.Composability
import GraphBatch.Proofs.VariableNames
import GraphBatch.Proofs.FragmentNames
import GraphBatch.Proofs.Refusal
import GraphBatch.Proofs.RefusedReads
import GraphBatch.Proofs.RefusedWrites
import GraphBatch.Proofs.Remapping
import GraphBatch.Proofs.Forwarding
import GraphBatch.Proofs.ResponseNames
import GraphBatch.Proofs.Interleavings
import GraphBatch.Proofs.CallSequences
import GraphBatch.Proofs.ValueIndependence
import GraphBatch.Proofs.Syntax.Reader
import GraphBatch.Proofs.Syntax.Spelling
import GraphBatch.Proofs.Syntax.Scanning
import GraphBatch.Proofs.Syntax.Rendering
import GraphBatch.Proofs.Faithfulness
import GraphBatch.Proofs.Closedness
import GraphBatch.Proofs.FilledSelections
import GraphBatch.Proofs.ReportedTables
import GraphBatch.Proofs.Passes
import GraphBatch.Proofs.Introspection
import GraphBatch.Proofs.Session.Conduct
import GraphBatch.Proofs.Session.Play
import GraphBatch.Proofs.Session.Foreign
import GraphBatch.Proofs.Session.ErrorItems
import GraphBatch.Proofs.Places
import GraphBatch.Proofs.Rearranging
import GraphBatch.Proofs.Configs
import GraphBatch.Proofs.SentSecret
import GraphBatch.Proofs.FailedConnections
import GraphBatch.Proofs.Merging
import GraphBatch.Proofs.RepeatedRows
import GraphBatch.Proofs.KeyOrder
import GraphBatch.Proofs.RegistrySteps
import GraphBatch.Proofs.BuildSequences
import GraphBatch.Proofs.QueryParts
import GraphBatch.Proofs.WholeSources
import GraphBatch.Proofs.Decoding
import GraphBatch.Proofs.SelectionGrammar
import GraphBatch.Proofs.RecordMembers
import GraphBatch.Proofs.ParamShapes
import GraphBatch.Proofs.ParamDecoding
import GraphBatch.Proofs.PercentEncoding
import GraphBatch.Proofs.SpelledUrls
import GraphBatch.Proofs.ConnectionParts
import GraphBatch.Proofs.Contexts
import GraphBatch.Proofs.NameParts
import GraphBatch.Proofs.PathTexts
