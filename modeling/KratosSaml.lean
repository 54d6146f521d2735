import KratosSaml.Runtime
import KratosSaml.Flow
import KratosSaml.Engine
import KratosSaml.Attributes
import KratosSaml.Config
import KratosSaml.Resolver
import KratosSaml.ErrorResponder
import KratosSaml.Middleware
import KratosSaml.Handlers
import KratosSaml.LazyInit
import KratosSaml.UrlParse
import KratosSaml.Server
