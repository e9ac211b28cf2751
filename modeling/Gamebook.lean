import Gamebook.Form.Graph
import Gamebook.Form.Response
import Gamebook.Main
import Gamebook.Service.Route
import Gamebook.Proofs.Chain
import Gamebook.Proofs.Definition.Accepted
import Gamebook.Proofs.Definition.Outline
import Gamebook.Proofs.Json.Text
import Gamebook.Proofs.Number.Digits
import Gamebook.Proofs.Json.Codec
import Gamebook.Proofs.Json.Textual
import Gamebook.Proofs.Definition.Written
import Gamebook.Proofs.Files.Update
import Gamebook.Proofs.Files.Written
import Gamebook.Proofs.Files.Folder
import Gamebook.Proofs.Definition.JsonRoundTrip
import Gamebook.Proofs.Definition.Cached
import Gamebook.Proofs.Story.Failure
import Gamebook.Proofs.Story.Run
import Gamebook.Proofs.Story.Walked
import Gamebook.Proofs.Story.Travel
import Gamebook.Proofs.Story.Chronicle
import Gamebook.Proofs.Console.Ending
import Gamebook.Proofs.Time.Wire
import Gamebook.Proofs.Store.Slug
import Gamebook.Proofs.Store.Held
import Gamebook.Proofs.Skill.Turn
import Gamebook.Proofs.Skill.Saved
import Gamebook.Proofs.Skill.Spoken
import Gamebook.Proofs.Web.Percent
import Gamebook.Proofs.Service.Calls
import Gamebook.Proofs.Service.Serving
import Gamebook.Proofs.Service.Requests
import Gamebook.Proofs.Service.Replies
import Gamebook.Proofs.Service.Progress
import Gamebook.Proofs.Service.Sessions
import Gamebook.Proofs.Service.Apart
import Gamebook.Proofs.Yaml.Cursor
import Gamebook.Proofs.Yaml.Scan
import Gamebook.Proofs.Yaml.Pen
import Gamebook.Proofs.Yaml.Plain
import Gamebook.Proofs.Yaml.Quoted
import Gamebook.Proofs.Yaml.Single
import Gamebook.Proofs.Yaml.Double
import Gamebook.Proofs.Yaml.Spelled
import Gamebook.Proofs.Yaml.Fetch
import Gamebook.Proofs.Yaml.Entry
import Gamebook.Proofs.Yaml.Block
import Gamebook.Proofs.Yaml.Layout
import Gamebook.Proofs.Yaml.Document
import Gamebook.Proofs.Yaml.Nodes
import Gamebook.Proofs.Yaml.Reading
import Gamebook.Proofs.Definition.Echoed
import Gamebook.Proofs.Definition.YamlRoundTrip
import Gamebook.Proofs.Store.Sharing
import Gamebook.Proofs.Number.Rounding
import Gamebook.Proofs.Speech.Pauses
import Gamebook.Proofs.Store.Kept
import Gamebook.Proofs.Service.Answered
import Gamebook.Proofs.Notice.Sent
import Gamebook.Proofs.Service.Muted
import Gamebook.Proofs.Store.Configured
import Gamebook.Proofs.Service.Notified
import Gamebook.Proofs.Definition.Diagnosis
import Gamebook.Proofs.Definition.Verdict
import Gamebook.Proofs.Definition.Loading
import Gamebook.Proofs.Service.Edited
import Gamebook.Proofs.Service.Shown
import Gamebook.Proofs.Definition.Modest
import Gamebook.Proofs.Json.Limited
import Gamebook.Proofs.Yaml.Modest
import Gamebook.Proofs.Yaml.Scanned
import Gamebook.Proofs.Yaml.Parsed
import Gamebook.Proofs.Yaml.Fitting
import Gamebook.Proofs.Definition.Told
import Gamebook.Proofs.Service.Failures
import Gamebook.Proofs.Story.Uttered
import Gamebook.Proofs.Story.Leaves
import Gamebook.Proofs.Xml.Written
import Gamebook.Proofs.Speech.Recovered
import Gamebook.Proofs.Speech.Received
import Gamebook.Proofs.Json.Spelled
import Gamebook.Proofs.Store.Persisted
import Gamebook.Proofs.Store.Damaged
import Gamebook.Proofs.Story.Unmet
import Gamebook.Proofs.Console.Played
import Gamebook.Proofs.Service.Sources
import Gamebook.Proofs.Number.Basin
import Gamebook.Proofs.Number.Nearest
import Gamebook.Proofs.Number.Written
import Gamebook.Proofs.Json.Float
import Gamebook.Proofs.Json.Sound
import Gamebook.Proofs.Store.Shelved
import Gamebook.Proofs.Story.Renamed
import Gamebook.Proofs.Story.Narrative
import Gamebook.Proofs.Story.Understood
import Gamebook.Proofs.Story.Names
import Gamebook.Proofs.Definition.Meaning
import Gamebook.Proofs.Definition.Defined
import Gamebook.Proofs.Text.Pattern
import Gamebook.Proofs.Definition.Verbatim
import Gamebook.Proofs.Service.Adjusted
import Gamebook.Proofs.Service.Ended
import Gamebook.Proofs.Store.Restored
import Gamebook.Proofs.Store.Filed
import Gamebook.Proofs.Text.Lower
import Gamebook.Proofs.Speech.Joined
