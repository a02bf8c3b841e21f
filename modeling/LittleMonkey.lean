import LittleMonkey.Daemon.Restarts
import LittleMonkey.Daemon.Residency
import LittleMonkey.Swarm.Parallelism
import LittleMonkey.Ledger.Agreement
import LittleMonkey.Daemon.Noninterference
import LittleMonkey.Remote.StartedOnce
import LittleMonkey.Channel.OutboxFinality
import LittleMonkey.Channel.OneJobPerTurn
import LittleMonkey.Channel.BotStreak
import LittleMonkey.Channel.Redelivery
import LittleMonkey.Swarm.OneShot
import LittleMonkey.Workflow.LostEffects
import LittleMonkey.Swarm.GraphOrder
import LittleMonkey.Process.BudgetStops
import LittleMonkey.Process.Reconciling
import LittleMonkey.Process.Descendants
import LittleMonkey.Swarm.Isolation
import LittleMonkey.Workflow.IdempotencyKeys
import LittleMonkey.Daemon.Admission
import LittleMonkey.Channel.SessionKeys
import LittleMonkey.Remote.Controllers
import LittleMonkey.Approval.Chains
import LittleMonkey.Client.Stream
import LittleMonkey.Daemon.Watches
import LittleMonkey.Checkpoint.Rollback
import LittleMonkey.Knowledge.Accuracy
import LittleMonkey.Daemon.ProcessTree
