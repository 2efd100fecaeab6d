import Prisma.ClientEngine.Json
import Prisma.ClientEngine.Errors
import Prisma.ClientEngine.PanicHandler
import Prisma.ClientEngine.CompactedRows
import Prisma.ClientEngine.Transactions
import Prisma.ClientEngine.Async
import Prisma.ClientEngine.Requests
import Prisma.ClientEngine.Startup
import Prisma.ClientEngine.LastStartedQuery
import Prisma.ClientEngine.SharedState
import Prisma.ClientEngine.Commits
import Prisma.ClientEngine.MultiBatch
import Prisma.ClientEngine.LocalExecutor
import Prisma.Accelerate.ClientVersion
import Prisma.Cli.Checkpoint
