import EmbedSpiceDB.Path
import EmbedSpiceDB.Schema.Run
import EmbedSpiceDB.Schema.Reloader
import EmbedSpiceDB.Schema.Refactored
import EmbedSpiceDB.Watch.Watcher
import EmbedSpiceDB.Watch.Debounce
import EmbedSpiceDB.Watch.Coverage
import EmbedSpiceDB.Server.Lifecycle
import EmbedSpiceDB.Server.Threads
import EmbedSpiceDB.Server.Health
import EmbedSpiceDB.Server.Config
import EmbedSpiceDB.Server.Coordinator
