import AwsCredentials.Text.Blank
import AwsCredentials.Text.LetterCase
import AwsCredentials.Text.WholeNumber
import AwsCredentials.Text.CodePoint
import AwsCredentials.Text.Quoted
import AwsCredentials.Text.Utf8
import AwsCredentials.Text.LineEnd
import AwsCredentials.Dictionary
import AwsCredentials.Field
import AwsCredentials.Strategy
import AwsCredentials.Descriptor
import AwsCredentials.Violation
import AwsCredentials.Properties.Document
import AwsCredentials.Parameters.Source
import AwsCredentials.Validation.Report
import AwsCredentials.Configuration
import AwsCredentials.Endpoint.Url
import AwsCredentials.Files.Reading
import AwsCredentials.Session.Build
import AwsCredentials.Proofs.Basic
import AwsCredentials.Proofs.Validation.Image
import AwsCredentials.Proofs.Validation.Totality
import AwsCredentials.Proofs.Text.LineEnd
import AwsCredentials.Proofs.Properties.Alphabet
import AwsCredentials.Proofs.Properties.Piece
import AwsCredentials.Proofs.Properties.Reader
import AwsCredentials.Proofs.Properties.OnePass
import AwsCredentials.Proofs.Properties.RoundTrip
import AwsCredentials.Proofs.Session.Credentials
import AwsCredentials.Proofs.Session.Plan
import AwsCredentials.Proofs.Session.Chaining
import AwsCredentials.Proofs.Session.Execution
import AwsCredentials.Proofs.Session.Safety
import AwsCredentials.Proofs.Session.SdkFailure
import AwsCredentials.Proofs.Session.SecretFile
import AwsCredentials.Proofs.Parameters.Merge
import AwsCredentials.Proofs.Parameters.Representation
import AwsCredentials.Proofs.Dictionary
import AwsCredentials.Proofs.Parameters.Canonical
import AwsCredentials.Proofs.Text.Utf8
import AwsCredentials.Proofs.Session.Secret
import AwsCredentials.Proofs.Parameters.Layers
import AwsCredentials.Proofs.Properties.Grammar
import AwsCredentials.Proofs.Session.KeyPairFile
import AwsCredentials.Proofs.Properties.Concatenation
import AwsCredentials.Proofs.Properties.Malformed
import AwsCredentials.Proofs.Session.LineEnds
import AwsCredentials.Proofs.Validation.WebIdentity
import AwsCredentials.Proofs.Session.WebIdentity
import AwsCredentials.Proofs.Validation.Respelling
import AwsCredentials.Proofs.Validation.Rounds
import AwsCredentials.Proofs.Text.OneLine
import AwsCredentials.Proofs.Validation.Diagnostics
import AwsCredentials.Proofs.Session.Endpoint
import AwsCredentials.Proofs.Endpoint.Stability
import AwsCredentials.Proofs.Properties.Boundary
