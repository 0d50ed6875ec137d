import GameJam.Command
import GameJam.CommandLine.Help
import GameJam.CommandLine.Invocation
import GameJam.CommandLine.Switch
import GameJam.Config
import GameJam.Files.Basic
import GameJam.Files.Path
import GameJam.Files.Tree
import GameJam.Filter.Clause
import GameJam.Filter.Entry
import GameJam.Filter.FieldValue
import GameJam.Filter.Operator
import GameJam.Filter.Outline
import GameJam.Filter.Query
import GameJam.Filter.Schema
import GameJam.Filter.Token
import GameJam.Json.Basic
import GameJam.Json.Draft
import GameJam.Json.Read
import GameJam.Json.Write
import GameJam.Listing
import GameJam.Location
import GameJam.Main
import GameJam.Number.Basic
import GameJam.Number.Binary64
import GameJam.Number.Decimal
import GameJam.Number.Format
import GameJam.Output.Csv
import GameJam.Output.Outline
import GameJam.Output.Presentation
import GameJam.Output.Structured
import GameJam.Output.Styled
import GameJam.OutputMode
import GameJam.Paging
import GameJam.Pattern
import GameJam.Pattern.Class
import GameJam.Pattern.Expr
import GameJam.Pattern.Meaning
import GameJam.Pattern.Parse
import GameJam.Pattern.Regular
import GameJam.Pattern.Size
import GameJam.Program
import GameJam.Proofs.Except
import GameJam.Proofs.Filter.Alternatives
import GameJam.Proofs.Filter.Conjunction
import GameJam.Proofs.Filter.Descent
import GameJam.Proofs.Filter.Extension
import GameJam.Proofs.Filter.LetterCase
import GameJam.Proofs.Filter.OlderForm
import GameJam.Proofs.Filter.Outline
import GameJam.Proofs.Filter.RowMeaning
import GameJam.Proofs.Filter.SchemaText
import GameJam.Proofs.Filter.Searches
import GameJam.Proofs.Filter.TextFilter
import GameJam.Proofs.Filter.Token
import GameJam.Proofs.Filter.TokenRows
import GameJam.Proofs.Filter.WellFormed
import GameJam.Proofs.Json.AllNumbers
import GameJam.Proofs.Json.DraftReading
import GameJam.Proofs.Json.FieldReading
import GameJam.Proofs.Json.Grammar
import GameJam.Proofs.Json.NumberReading
import GameJam.Proofs.Json.PartialLeaves
import GameJam.Proofs.Json.Places
import GameJam.Proofs.Json.RecordReading
import GameJam.Proofs.Json.Spelling
import GameJam.Proofs.Json.TreeReading
import GameJam.Proofs.Listing
import GameJam.Proofs.Listing.Summary
import GameJam.Proofs.Listing.Text
import GameJam.Proofs.Location
import GameJam.Proofs.Number.Comparison
import GameJam.Proofs.Number.Nearest
import GameJam.Proofs.Number.Rounding
import GameJam.Proofs.Number.Shortest
import GameJam.Proofs.Number.Written
import GameJam.Proofs.Output.Styled
import GameJam.Proofs.Output.Table
import GameJam.Proofs.Output.TableReading
import GameJam.Proofs.Output.Unstyled
import GameJam.Proofs.Paging
import GameJam.Proofs.Paging.Gaps
import GameJam.Proofs.Paging.Pager
import GameJam.Proofs.Paging.Slices
import GameJam.Proofs.Results.Categories
import GameJam.Proofs.Results.CountFilter
import GameJam.Proofs.Results.CoverFilter
import GameJam.Proofs.Results.DatasetReading
import GameJam.Proofs.Results.LabelFilter
import GameJam.Proofs.Results.LabelForms
import GameJam.Proofs.Results.LabelText
import GameJam.Proofs.Results.Offers
import GameJam.Proofs.Results.RankFilter
import GameJam.Proofs.Results.SchemaCache
import GameJam.Proofs.Results.ServedFields
import GameJam.Proofs.Session.History
import GameJam.Proofs.Session.Loading
import GameJam.Proofs.Session.Requests
import GameJam.Proofs.Text.LowerCase
import GameJam.Proofs.Text.Parts
import GameJam.Proofs.Text.UrlForm
import GameJam.Proofs.Text.Utf8
import GameJam.Results.Dataset
import GameJam.Results.Game
import GameJam.Results.Schema
import GameJam.Results.SchemaCache
import GameJam.Session
import GameJam.Text.Blank
import GameJam.Text.Fields
import GameJam.Text.Quoted
import GameJam.Text.Unicode.Case
import GameJam.Text.Unicode.CaseData
import GameJam.Text.Unicode.Category
import GameJam.Text.Unicode.CategoryData
import GameJam.Text.Unicode.PropertyData
import GameJam.Text.Unicode.Runs
import GameJam.Text.Unicode.Script
import GameJam.Text.Unicode.ScriptData
import GameJam.Text.UrlForm
import GameJam.Text.Utf8
import GameJam.Yaml.Cursor
import GameJam.Yaml.Document
import GameJam.Yaml.Plain
import GameJam.Yaml.Scalar
import GameJam.Yaml.Tag
import GameJam.Yaml.Value
import GameJam.Yaml.Write
