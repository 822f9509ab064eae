import SwaggerClient.Client.Pass
import SwaggerClient.Proofs.Text.Ascii
import SwaggerClient.Proofs.Text.Runs
import SwaggerClient.Proofs.Text.Cutting
import SwaggerClient.Proofs.Text.Casing
import SwaggerClient.Proofs.Text.Spelling
import SwaggerClient.Proofs.Text.Capitals
import SwaggerClient.Proofs.Text.Order
import SwaggerClient.Proofs.Text.Separators
import SwaggerClient.Proofs.Text.Letters
import SwaggerClient.Proofs.Text.Endings
import SwaggerClient.Proofs.Naming.Types
import SwaggerClient.Proofs.Naming.Apis
import SwaggerClient.Proofs.Naming.Reserved
import SwaggerClient.Proofs.Naming.Identifiers
import SwaggerClient.Proofs.Naming.SameRuns
import SwaggerClient.Proofs.Naming.Routes
import SwaggerClient.Proofs.Reference.Paths
import SwaggerClient.Proofs.Reference.Leaves
import SwaggerClient.Proofs.Reference.Localizing
import SwaggerClient.Proofs.Json.FreeValues
import SwaggerClient.Proofs.Datum.Records
import SwaggerClient.Proofs.Datum.Parts
import SwaggerClient.Proofs.Swagger.Properties
import SwaggerClient.Proofs.Swagger.Arrays
import SwaggerClient.Proofs.Swagger.Shared
import SwaggerClient.Proofs.Client.Grouping
import SwaggerClient.Proofs.Client.References
import SwaggerClient.Proofs.Client.Typing
import SwaggerClient.Proofs.Client.Composition
import SwaggerClient.Proofs.Client.Recording
import SwaggerClient.Proofs.Client.Normalizing
import SwaggerClient.Proofs.Client.Pass
import SwaggerClient.Proofs.Client.Refs
import SwaggerClient.Proofs.Client.Targets
import SwaggerClient.Proofs.Client.Imports
import SwaggerClient.Proofs.Client.ImportTypes
import SwaggerClient.Proofs.Client.Stages
import SwaggerClient.Proofs.Client.ModelFaults
import SwaggerClient.Proofs.Client.Parameters
import SwaggerClient.Proofs.Client.Overlooked
import SwaggerClient.Proofs.Client.OperationFaults
import SwaggerClient.Proofs.Client.Closure
import SwaggerClient.Proofs.Client.RoundTrip
import SwaggerClient.Proofs.Client.ContentTypes
import SwaggerClient.Proofs.Client.Listing
import SwaggerClient.Proofs.Client.Normalized
import SwaggerClient.Proofs.Client.Layout
import SwaggerClient.Proofs.Client.ApiFiles
import SwaggerClient.Proofs.Client.Fields
import SwaggerClient.Proofs.Client.ModelImports
import SwaggerClient.Proofs.Client.OtherDefinitions
