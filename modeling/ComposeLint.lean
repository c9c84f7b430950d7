import ComposeLint.Server.Lifespan
import ComposeLint.Server.Response
import ComposeLint.Proofs.Agreement
import ComposeLint.Proofs.ChildExtent
import ComposeLint.Proofs.ColonFixes
import ComposeLint.Proofs.CommentCuts
import ComposeLint.Proofs.CommentScans
import ComposeLint.Proofs.CustomSnippets
import ComposeLint.Proofs.ExecCommands
import ComposeLint.Proofs.FieldOrder
import ComposeLint.Proofs.FilledWordings
import ComposeLint.Proofs.IssuePlaces
import ComposeLint.Proofs.ItemScalars
import ComposeLint.Proofs.LineEnds
import ComposeLint.Proofs.LineGrammar
import ComposeLint.Proofs.ListOrder
import ComposeLint.Proofs.MountAgreement
import ComposeLint.Proofs.NestedBlocks
import ComposeLint.Proofs.OwnedLines
import ComposeLint.Proofs.PassFailure
import ComposeLint.Proofs.PortEntries
import ComposeLint.Proofs.QuotedScalars
import ComposeLint.Proofs.Remarks
import ComposeLint.Proofs.Rendering.RoundTrip
import ComposeLint.Proofs.RepeatedKeys
import ComposeLint.Proofs.RepeatedServices
import ComposeLint.Proofs.ReportOrder
import ComposeLint.Proofs.ScalarCommands
import ComposeLint.Proofs.ScalarHeaders
import ComposeLint.Proofs.ScalarLeaks
import ComposeLint.Proofs.ScalarOpacity
import ComposeLint.Proofs.ScalarOwner
import ComposeLint.Proofs.SectionLocality
import ComposeLint.Proofs.Segmentation
import ComposeLint.Proofs.ServiceIsolation
import ComposeLint.Proofs.SoundMounts
import ComposeLint.Proofs.StartFailures
import ComposeLint.Proofs.StoreAnswers
import ComposeLint.Proofs.SyntaxClean
import ComposeLint.Proofs.TakenPorts
import ComposeLint.Proofs.TrailingComments
import ComposeLint.Proofs.TransparentQuotes
import ComposeLint.Proofs.VariableCounts
import ComposeLint.Proofs.VolumeUse
import ComposeLint.Proofs.Yaml.QuotedTexts
