import Tgdex.Data.Json
import Tgdex.Data.BoolQuery
import Tgdex.Data.HashMap
import Tgdex.Data.Frequency
import Tgdex.Data.DateTime
import Tgdex.Data.Pattern
import Tgdex.Effects.Pool
import Tgdex.Effects.Confirmation
import Tgdex.Effects.Promise
import Tgdex.Java
import Tgdex.Elastic.Mapping
import Tgdex.Elastic.Index
import Tgdex.Elastic.Service
import Tgdex.Elastic.Client
import Tgdex.Elastic.Facets
import Tgdex.Elastic.Delivery
import Tgdex.Query.Decoder
import Tgdex.Items.Codec
import Tgdex.Items.Timestamps
import Tgdex.Api.Rules
import Tgdex.Search.Controller
import Tgdex.Search.Listing
import Tgdex.Catalogue.Service
import Tgdex.Validator.SearchQuery
import Tgdex.Validator.Messages
import Tgdex.Server
import Tgdex.Deploy.Deployer
import Tgdex.Api.Router
import Tgdex.Properties.DecodedQueries
import Tgdex.Properties.Conversion
import Tgdex.Properties.SearchAccess
import Tgdex.Properties.Deletion
import Tgdex.Properties.PublishStatus
import Tgdex.Properties.Ownership
import Tgdex.Properties.NameUniqueness
import Tgdex.Properties.Updates
import Tgdex.Properties.ItemCodec
import Tgdex.Properties.UploadStatus
import Tgdex.Properties.Selection
import Tgdex.Properties.Answers
import Tgdex.Properties.Settling
import Tgdex.Properties.CreationTime
import Tgdex.Properties.Criteria
import Tgdex.Properties.Paging
import Tgdex.Properties.PageWalk
import Tgdex.Properties.SortOrder
import Tgdex.Properties.Facets
import Tgdex.Properties.Listing
import Tgdex.Properties.Timestamps
import Tgdex.Properties.Catalogue
import Tgdex.Properties.QueryValidation
import Tgdex.Properties.ValidationMessages
import Tgdex.Properties.Provenance
import Tgdex.Properties.Reads
import Tgdex.Properties.Discretion
import Tgdex.Properties.Linearization
import Tgdex.Properties.Deployment
import Tgdex.Properties.Confidentiality
import Tgdex.Properties.Owners
import Tgdex.Properties.Browsing
import Tgdex.Properties.Composition
