import Sentry.Ktime
import Sentry.Kernel.TaskState
import Sentry.Kernel.TaskBlock
import Sentry.Kernel.TaskBlock.Contract
import Sentry.Kernel.TaskBlock.Progress
import Sentry.Kernel.TaskBlock.Interrupt
import Sentry.Kernel.TaskBlock.TimerHygiene
import Sentry.Kernel.TaskBlock.Frame
import Sentry.Kernel.TaskBlock.Timeout
import Sentry.Kernel.TaskBlock.Refinement
import Sentry.Kernel.Threads
import Sentry.Kernel.Threads.Iteration
import Sentry.Kernel.Threads.Creation
import Sentry.Fsimpl.Gofer.DentryImpl
